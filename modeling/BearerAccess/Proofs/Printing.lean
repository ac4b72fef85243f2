import BearerAccess.Proofs.Text
import BearerAccess.Text.Printed
import BearerAccess.Text.Quoted
import Mathlib.Tactic.Common

/-!
# What is printed

A text is printed as it is if nothing in it steers a terminal or returns the carriage. In every text a
line feed ends what a control sequence may take with it, so that a last line without such characters is
printed as it is, whatever stands before it.
-/

namespace BearerAccess

variable {cs : List Char}

/-! ### Texts without control characters -/

lemma withoutControls_of_plain (h : '\x1b' ∉ cs) : withoutControls cs = cs := by
  induction cs using withoutControls.induct with
  | case1 cs rest hrest hlength ih => exact absurd List.mem_cons_self h
  | case2 cs hnone ih => exact absurd List.mem_cons_self h
  | case3 c cs hother ih =>
    rw [List.mem_cons, not_or] at h
    rw [withoutControls, ih h.2]
    exact hother
  | case4 => rw [withoutControls]

lemma withLineFeeds_of_plain (h : '\r' ∉ cs) : withLineFeeds cs = cs := by
  induction cs using withLineFeeds.induct with
  | case1 cs ih => exact absurd List.mem_cons_self h
  | case2 c cs hother ih =>
    rw [List.mem_cons, not_or] at h
    rw [withLineFeeds, ih h.2]
    exact hother
  | case3 => rw [withLineFeeds]

lemma printed_of_plain {s : String} (hescape : '\x1b' ∉ s.toList) (hreturn : '\r' ∉ s.toList) :
    printed s = s := by
  rw [printed, withoutControls_of_plain hescape, withLineFeeds_of_plain hreturn, String.ofList_toList]

lemma Text.escaped_ofString (s : String) : (Text.ofString s).escaped = s := by
  unfold Text.escaped Text.ofString
  simp only [List.flatMap_map, CodePoint.toChar?_ofChar]
  rw [List.flatMap_singleton', String.ofList_toList]

/-! ### Lines -/

lemma dropWhile_append_of_not {p : Char → Bool} {c : Char} (hc : p c = false) (cs rest : List Char) :
    (cs ++ c :: rest).dropWhile p = cs.dropWhile p ++ c :: rest := by
  induction cs with
  | nil => simp [hc]
  | cons d cs ih =>
    by_cases hd : p d = true
    · simp [hd, ih]
    · simp [hd]

/-- No control sequence goes on after a line feed. -/
lemma afterControl?_line (cs rest : List Char) :
    afterControl? (cs ++ '\n' :: rest) = (afterControl? cs).map (· ++ '\n' :: rest) := by
  unfold afterControl?
  dsimp only
  rw [dropWhile_append_of_not (by decide), dropWhile_append_of_not (by decide)]
  cases (cs.dropWhile fun c => '0' ≤ c && c ≤ '?').dropWhile fun c => ' ' ≤ c && c ≤ '/' with
  | nil => rfl
  | cons c more =>
    dsimp only [List.cons_append]
    split <;> rfl

lemma withoutControls_of_some {rest : List Char} (h : afterControl? cs = some rest) :
    withoutControls ('\x1b' :: '[' :: cs) = withoutControls rest := by
  rw [withoutControls]
  split
  · rename_i after hafter
    rw [h] at hafter
    rw [Option.some.inj hafter]
  · rename_i hnone
    rw [h] at hnone
    cases hnone

lemma withoutControls_of_none (h : afterControl? cs = none) :
    withoutControls ('\x1b' :: '[' :: cs) = '\x1b' :: '[' :: withoutControls cs := by
  rw [withoutControls]
  split
  · rename_i after hafter
    rw [h] at hafter
    cases hafter
  · rfl

lemma withoutControls_line (cs rest : List Char) :
    withoutControls (cs ++ '\n' :: rest) = withoutControls cs ++ '\n' :: withoutControls rest := by
  have hfeed : ∀ more, withoutControls ('\n' :: more) = '\n' :: withoutControls more := by
    intro more
    rw [withoutControls]
    simp
  induction cs using withoutControls.induct with
  | case1 cs after hafter hlength ih =>
    have hline : afterControl? (cs ++ '\n' :: rest) = some (after ++ '\n' :: rest) := by
      rw [afterControl?_line, hafter, Option.map_some]
    rw [List.cons_append, List.cons_append, withoutControls_of_some hline, ih,
      withoutControls_of_some hafter]
  | case2 cs hnone ih =>
    have hline : afterControl? (cs ++ '\n' :: rest) = none := by
      rw [afterControl?_line, hnone, Option.map_none]
    rw [List.cons_append, List.cons_append, withoutControls_of_none hline, ih,
      withoutControls_of_none hnone]
    rfl
  | case3 c cs hother ih =>
    rw [List.cons_append, withoutControls, withoutControls, ih]
    · rfl
    · exact hother
    · rintro more rfl happend
      cases cs with
      | nil => cases happend
      | cons d cs =>
        obtain ⟨rfl, -⟩ := List.cons.inj happend
        exact hother cs rfl rfl
  | case4 => rw [List.nil_append, hfeed, withoutControls, List.nil_append]

/-- A carriage return before a line feed is lost, and the line feed is not. -/
lemma withLineFeeds_line (cs rest : List Char) :
    ∃ line, withLineFeeds (cs ++ '\n' :: rest) = line ++ '\n' :: withLineFeeds rest := by
  induction cs using withLineFeeds.induct with
  | case1 cs ih =>
    obtain ⟨line, hline⟩ := ih
    refine ⟨'\n' :: line, ?_⟩
    rw [List.cons_append, List.cons_append, withLineFeeds, hline, List.cons_append]
  | case2 c cs hother ih =>
    obtain ⟨line, hline⟩ := ih
    by_cases hreturn : c = '\r' ∧ cs = []
    · obtain ⟨rfl, rfl⟩ := hreturn
      exact ⟨[], by simp [withLineFeeds]⟩
    · refine ⟨c :: line, ?_⟩
      rw [List.cons_append, withLineFeeds, hline, List.cons_append]
      rintro more rfl happend
      cases cs with
      | nil => exact hreturn ⟨rfl, rfl⟩
      | cons d cs =>
        obtain ⟨rfl, -⟩ := List.cons.inj happend
        exact hother cs rfl rfl
  | case3 => exact ⟨[], by simp [withLineFeeds]⟩

/-- What stands in the last lines of a text is printed after what stands before them. -/
lemma printed_line (before after : String) :
    ∃ line, printed (before ++ "\n" ++ after) = line ++ "\n" ++ printed after := by
  obtain ⟨line, hline⟩ :=
    withLineFeeds_line (withoutControls before.toList) (withoutControls after.toList)
  have hchars : (before ++ "\n" ++ after).toList = before.toList ++ '\n' :: after.toList := by
    rw [String.toList_append, String.toList_append, List.append_assoc]
    rfl
  refine ⟨String.ofList line, String.toList_inj.mp ?_⟩
  rw [printed, hchars, withoutControls_line, hline, printed]
  simp only [String.toList_append, String.toList_ofList, List.append_assoc]
  rfl

end BearerAccess
