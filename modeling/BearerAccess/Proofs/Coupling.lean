import BearerAccess.Http.Service
import BearerAccess.Proofs.Insert

/-!
# Two runs side by side

Statements about two runs compare what two worlds come to: the outcomes correspond, and so do the
worlds that are left. What counts as corresponding is left open here. There is a rule for each way in
which the parts of a run follow one another.
-/

namespace BearerAccess

variable {α α' β β' ε σ : Type}

/-- Two outcomes of one kind: answers that correspond, or errors that do. -/
inductive Parallel (E : ε → ε → Prop) (V : α → α' → Prop) : Except ε α → Except ε α' → Prop where
  | answers {a : α} {a' : α'} (h : V a a') : Parallel E V (.ok a) (.ok a')
  | errors {e e' : ε} (h : E e e') : Parallel E V (.error e) (.error e')

namespace Parallel

variable {E F : ε → ε → Prop} {V : α → α' → Prop} {x : Except ε α} {y : Except ε α'}

lemma mono {W : α → α' → Prop} (h : Parallel E V x y) (hE : ∀ e e', E e e' → F e e')
    (hV : ∀ a a', V a a' → W a a') : Parallel F W x y := by
  cases h with
  | answers h => exact .answers (hV _ _ h)
  | errors h => exact .errors (hE _ _ h)

lemma eq {y : Except ε α} (h : Parallel Eq Eq x y) : x = y := by
  cases h with
  | answers h => rw [h]
  | errors h => rw [h]

lemma rfl' (hE : ∀ e, E e e) (x : Except ε α) : Parallel E Eq x x := by
  cases x with
  | ok a => exact .answers rfl
  | error e => exact .errors (hE e)

end Parallel

/-- Two outcomes that correspond, in two states that do. -/
def Coupled (V : α → α' → Prop) (near : σ → σ → Prop) (x : α × σ) (y : α' × σ) : Prop :=
  V x.1 y.1 ∧ near x.2 y.2

namespace Coupled

variable {near : World → World → Prop} {same : Session → Session → Prop} {E : ε → ε → Prop}
  {V : α → α' → Prop} {U : β → β' → Prop} {w v : World} {s t : Session}

/-- One part after another. -/
lemma bind {a : ExceptT ε (StateM World) α} {a' : ExceptT ε (StateM World) α'}
    {f : α → ExceptT ε (StateM World) β} {f' : α' → ExceptT ε (StateM World) β'}
    (ha : Coupled (Parallel E V) near (a w) (a' v))
    (hf : ∀ x x' w₁ v₁, V x x' → near w₁ v₁ → Coupled (Parallel E U) near (f x w₁) (f' x' v₁)) :
    Coupled (Parallel E U) near ((a >>= f) w) ((a' >>= f') v) := by
  obtain ⟨hanswer, hworld⟩ := ha
  change Coupled _ near (ExceptT.bindCont f (a w).1 (a w).2) (ExceptT.bindCont f' (a' v).1 (a' v).2)
  generalize (a w).1 = x at hanswer
  generalize (a' v).1 = y at hanswer
  cases hanswer with
  | answers h => exact hf _ _ _ _ h hworld
  | errors h => exact ⟨.errors h, hworld⟩

lemma map {a : ExceptT ε (StateM World) α} {a' : ExceptT ε (StateM World) α'} {f : α → β}
    {f' : α' → β'} (ha : Coupled (Parallel E V) near (a w) (a' v))
    (hf : ∀ x x', V x x' → U (f x) (f' x')) :
    Coupled (Parallel E U) near ((f <$> a) w) ((f' <$> a') v) := by
  rw [map_eq_pure_bind, map_eq_pure_bind]
  exact ha.bind fun x x' _ _ hx hworld => ⟨.answers (hf x x' hx), hworld⟩

/-- One part of a block after another. -/
lemma step {E : Failure → Failure → Prop} {b : Block α} {b' : Block α'} {f : α → Block β}
    {f' : α' → Block β'} (hb : Coupled (Coupled (Parallel E V) same) near (b s w) (b' t v))
    (hf : ∀ x x' s₁ t₁ w₁ v₁, V x x' → same s₁ t₁ → near w₁ v₁ →
      Coupled (Coupled (Parallel E U) same) near (f x s₁ w₁) (f' x' t₁ v₁)) :
    Coupled (Coupled (Parallel E U) same) near ((b >>= f) s w) ((b' >>= f') t v) := by
  obtain ⟨⟨hanswer, hsession⟩, hworld⟩ := hb
  rw [Block.bind_apply, Block.bind_apply]
  rcases hw : b s w with ⟨⟨x, s₁⟩, w₁⟩
  rcases hv : b' t v with ⟨⟨y, t₁⟩, v₁⟩
  rw [hw, hv] at hanswer hsession hworld
  cases hanswer with
  | answers h => exact hf _ _ _ _ _ _ h hsession hworld
  | errors h => exact ⟨⟨.errors h, hsession⟩, hworld⟩

lemma mapStep {E : Failure → Failure → Prop} {b : Block α} {b' : Block α'} {f : α → β} {f' : α' → β'}
    (hb : Coupled (Coupled (Parallel E V) same) near (b s w) (b' t v))
    (hf : ∀ x x', V x x' → U (f x) (f' x')) :
    Coupled (Coupled (Parallel E U) same) near ((f <$> b) s w) ((f' <$> b') t v) := by
  rw [map_eq_pure_bind, map_eq_pure_bind]
  exact hb.step fun x x' _ _ _ _ hx hsession hworld => ⟨⟨.answers (hf x x' hx), hsession⟩, hworld⟩

/-- An action beside a block leaves its session alone. -/
lemma outside {E : Failure → Failure → Prop} {a : Action α} {a' : Action α'}
    (ha : Coupled (Parallel E V) near (a w) (a' v)) (hsession : same s t) :
    Coupled (Coupled (Parallel E V) same) near (Block.outside a s w) (Block.outside a' t v) :=
  ⟨⟨ha.1, hsession⟩, ha.2⟩

end Coupled

end BearerAccess
