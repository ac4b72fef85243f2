/-!
# Dialects

The database layer has a package for each kind of database. Behind a plus sign an address may name
any part of the package: a driver, which has a dialect, or something else, which has none. None of
the drivers that a server needs is part of the service.
-/

namespace BearerAccess

/-- What the name of a kind of database and driver stands for. -/
inductive Dialect where
  /-- Databases in files or in memory. -/
  | files
  /-- Databases that need a library which is not there. -/
  | needs (library : String)
  /-- A part of the database layer without a dialect, as it is shown. -/
  | noDialect (shown : String)
  deriving DecidableEq, Repr

/-- A package of the database layer: its drivers with the libraries that they need, the first of
which is the one that counts if none is named, and its other parts. -/
structure DialectPackage where
  name : String
  drivers : List (String × String)
  modules : List String
  types : List String
  functions : List String

namespace DialectPackage

def sqlite : DialectPackage :=
  { name := "sqlite"
    drivers := [("aiosqlite", "aiosqlite"), ("pysqlcipher", "pysqlcipher3")]
    modules := ["json", "dml"]
    types := ["BLOB", "BOOLEAN", "CHAR", "DATE", "DATETIME", "DECIMAL", "FLOAT", "INTEGER", "JSON",
      "NUMERIC", "REAL", "SMALLINT", "TEXT", "TIME", "TIMESTAMP", "VARCHAR", "Insert"]
    functions := ["insert"] }

def mysql : DialectPackage :=
  { name := "mysql"
    drivers := [("base", "MySQLdb"), ("mysqldb", "MySQLdb"), ("pymysql", "pymysql"),
      ("cymysql", "cymysql"), ("mysqlconnector", "mysql"), ("mariadbconnector", "mariadb"),
      ("aiomysql", "aiomysql"), ("asyncmy", "asyncmy"), ("pyodbc", "pyodbc")]
    modules := ["dml", "enumerated", "expression", "json", "mariadb", "reflection",
      "reserved_words", "types"]
    types := ["BIGINT", "BINARY", "BIT", "BLOB", "BOOLEAN", "CHAR", "DATE", "DATETIME", "DECIMAL",
      "DOUBLE", "ENUM", "FLOAT", "INTEGER", "JSON", "LONGBLOB", "LONGTEXT", "MEDIUMBLOB",
      "MEDIUMINT", "MEDIUMTEXT", "NCHAR", "NUMERIC", "NVARCHAR", "REAL", "SET", "SMALLINT", "TEXT",
      "TIME", "TIMESTAMP", "TINYBLOB", "TINYINT", "TINYTEXT", "VARBINARY", "VARCHAR", "YEAR",
      "INET4", "INET6", "Insert", "match"]
    functions := ["insert", "limit"] }

def postgresql : DialectPackage :=
  { name := "postgresql"
    drivers := [("base", "psycopg"), ("psycopg", "psycopg"), ("psycopg_async", "psycopg"),
      ("psycopg2", "psycopg2"), ("psycopg2cffi", "psycopg2cffi"), ("asyncpg", "asyncpg"),
      ("pg8000", "pg8000")]
    modules := ["dml", "ext", "json", "named_types", "operators", "pg_catalog", "ranges", "types",
      "bitstring", "_psycopg_common"]
    types := ["ARRAY", "array", "BIGINT", "BOOLEAN", "CHAR", "DATE", "DOMAIN", "DOUBLE_PRECISION",
      "FLOAT", "INTEGER", "NUMERIC", "REAL", "SMALLINT", "TEXT", "UUID", "VARCHAR", "Insert",
      "aggregate_order_by", "ExcludeConstraint", "phraseto_tsquery", "plainto_tsquery",
      "to_tsquery", "to_tsvector", "ts_headline", "websearch_to_tsquery", "HSTORE", "hstore",
      "JSON", "JSONB", "JSONPATH", "CreateDomainType", "CreateEnumType", "DropDomainType",
      "DropEnumType", "ENUM", "NamedType", "AbstractMultiRange", "AbstractRange",
      "AbstractSingleRange", "DATEMULTIRANGE", "DATERANGE", "INT4MULTIRANGE", "INT4RANGE",
      "INT8MULTIRANGE", "INT8RANGE", "MultiRange", "NUMMULTIRANGE", "NUMRANGE", "Range",
      "TSMULTIRANGE", "TSRANGE", "TSTZMULTIRANGE", "TSTZRANGE", "BIT", "BYTEA", "CIDR", "CITEXT",
      "INET", "INTERVAL", "MACADDR", "MACADDR8", "MONEY", "OID", "REGCLASS", "REGCONFIG", "TIME",
      "TIMESTAMP", "TSQUERY", "TSVECTOR", "BitString"]
    functions := ["All", "Any", "array_agg", "distinct_on", "insert"] }

def mssql : DialectPackage :=
  { name := "mssql"
    drivers := [("base", "pyodbc"), ("pyodbc", "pyodbc"), ("pymssql", "pymssql"),
      ("aioodbc", "aioodbc"), ("mssqlpython", "mssql_python")]
    modules := ["information_schema", "json"]
    types := ["BIGINT", "BINARY", "BIT", "CHAR", "DATE", "DATETIME", "DATETIME2", "DATETIMEOFFSET",
      "DECIMAL", "DOUBLE_PRECISION", "FLOAT", "IMAGE", "INTEGER", "JSON", "MONEY", "NCHAR", "NTEXT",
      "NUMERIC", "NVARCHAR", "REAL", "ROWVERSION", "SMALLDATETIME", "SMALLINT", "SMALLMONEY",
      "SQL_VARIANT", "TEXT", "TIME", "TIMESTAMP", "TINYINT", "UNIQUEIDENTIFIER", "VARBINARY",
      "VARCHAR", "XML"]
    functions := ["try_cast"] }

def oracle : DialectPackage :=
  { name := "oracle"
    drivers := [("base", "oracledb"), ("oracledb", "oracledb"), ("oracledb_async", "oracledb"),
      ("cx_oracle", "cx_Oracle")]
    modules := ["dictionary", "json", "types", "vector"]
    types := ["BFILE", "BINARY_DOUBLE", "BINARY_FLOAT", "BLOB", "BOOLEAN", "CHAR", "CLOB", "DATE",
      "DOUBLE_PRECISION", "FLOAT", "INTERVAL", "JSON", "LONG", "NCHAR", "NCLOB", "NUMBER",
      "NVARCHAR", "NVARCHAR2", "RAW", "REAL", "ROWID", "SparseVector", "TIMESTAMP", "VARCHAR",
      "VARCHAR2", "VECTOR", "VectorIndexConfig"]
    functions := [] }

def all : List DialectPackage := [sqlite, mysql, postgresql, mssql, oracle]

/-- What every package has besides its own parts: names, and the kinds of values under them. -/
def commonValues : List (String × String) :=
  [("__name__", "str"), ("__doc__", "NoneType"), ("__package__", "str"), ("__file__", "str"),
   ("__cached__", "str"), ("__path__", "list"), ("__all__", "tuple"), ("__dict__", "dict"),
   ("__builtins__", "dict"), ("__spec__", "ModuleSpec"), ("__loader__", "SourceFileLoader")]

def shownModule (package module : String) : String :=
  s!"module 'sqlalchemy.dialects.{package}.{module}'"

def shownType (name : String) : String := s!"type object '{name}'"

def shownValue (kind : String) : String := s!"'{kind}' object"

def part? (p : DialectPackage) (name : String) : Option Dialect :=
  match p.drivers.lookup name with
  | some library => some (.needs library)
  | none =>
    if name ∈ p.modules then some (.noDialect (shownModule p.name name))
    else if name ∈ p.types then some (.noDialect (shownType name))
    else if name ∈ p.functions then some (.noDialect (shownValue "function"))
    else (commonValues.lookup name).map fun kind => .noDialect (shownValue kind)

end DialectPackage

namespace Dialect

/-- The modules of the package for MySQL that are no drivers. MariaDB, which has no package of its
own, can name them all, also the two that the package itself does not load. -/
def mariadbModules : List String :=
  DialectPackage.mysql.modules ++ ["provision", "_mariadb_shim"]

def mariadb? (driver : String) : Option Dialect :=
  match DialectPackage.mysql.drivers.lookup driver with
  | some library => some (.needs library)
  | none =>
    if driver ∈ mariadbModules then
      some (.noDialect (DialectPackage.shownModule DialectPackage.mysql.name driver))
    else none

/-- The kinds of dialects that packages hold under names of their own: the dialect that counts if no
driver is named. -/
def defaultDialects : List (String × String) :=
  [("sqlite", "SQLiteDialect_pysqlite"), ("mysql", "MySQLDialect_mysqldb"),
   ("postgresql", "PGDialect_psycopg"), ("mssql", "MSDialect_pyodbc"),
   ("oracle", "OracleDialect_oracledb")]

/-- What the name of a kind of database stands for, with a driver if one is named. -/
def find? (kind : String) (driver : Option String) : Option Dialect :=
  let part := driver.getD "base"
  if kind = "mariadb" then mariadb? part
  else if kind = "sqlite" ∧ part ∈ ["base", "pysqlite"] then some .files
  else if part = "dialect" then
    (defaultDialects.lookup kind).map fun name => .noDialect (DialectPackage.shownType name)
  else (DialectPackage.all.find? (·.name = kind)).bind (·.part? part)

end Dialect

end BearerAccess
