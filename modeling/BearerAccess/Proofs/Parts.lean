import BearerAccess.Issuance
import BearerAccess.Proofs.Transaction

/-!
# Parts of blocks

Some properties of the parts of a block pass to what is composed of them. Such a property holds of the
inserts of users and tokens, and of the making of credentials, if it holds of what all inserts have in
common and of the draws in between. To fail for causes of one kind only is such a property.
-/

namespace BearerAccess

/-- A cause for which inserts fail. -/
def Cause.OfInsert : Cause → Prop
  | .usernameTaken _ | .store _ | .unencodable _ _ | .range _ => True
  | _ => False

namespace Store

lemma userFailure_ofInsert (username : Option Text) (refusal : Refusal) :
    (userFailure username refusal).OfInsert := by
  unfold userFailure
  split
  · split <;> trivial
  · trivial
  · trivial

lemma tokenFailure_ofInsert (refusal : Refusal) : (tokenFailure refusal).OfInsert := by
  unfold tokenFailure
  split <;> trivial

end Store

/-- A property that passes from the parts of a block to what is composed of them. -/
structure Block.Composes (P : ∀ {α : Type}, Block α → Prop) : Prop where
  pure : ∀ {α : Type} (a : α), P (pure a)
  fail : ∀ {α : Type} (c : Cause), c.OfInsert → P (fail c : Block α)
  bind : ∀ {α β : Type} {b : Block α} {g : α → Block β}, P b → (∀ a, P (g a)) → P (b >>= g)

namespace Block.Composes

variable {P : ∀ {α : Type}, Block α → Prop} {store : Store}

lemma map {α β : Type} (h : Composes P) {b : Block α} (hb : P b) (f : α → β) : P (f <$> b) := by
  rw [map_eq_pure_bind]
  exact h.bind hb fun a => h.pure (f a)

lemma expiryStamp (h : Composes P) (expiresAt : Option DateTime) : P (Store.expiryStamp expiresAt) := by
  cases expiresAt with
  | none => exact h.pure none
  | some e =>
    unfold Store.expiryStamp DateTime.universal
    dsimp only
    refine h.map ?_ _
    cases e.toUniversal? with
    | none => exact h.fail _ trivial
    | some u => exact h.pure u

lemma insertUser (h : Composes P)
    (hinsert : ∀ {α : Type} (i : Option Stamp → Insertion α), P (store.insert i))
    (id username : Option Text) (isStaff : Flag) : P (store.insertUser id username isStaff) := by
  refine h.bind (hinsert _) fun answer => ?_
  cases answer with
  | ok row => exact h.pure _
  | error refusal => exact h.fail _ (Store.userFailure_ofInsert _ _)

lemma insertToken (h : Composes P)
    (hinsert : ∀ {α : Type} (i : Option Stamp → Insertion α), P (store.insert i))
    (id userId secret : Option Text) (name : Label) (expiresAt : Option DateTime) :
    P (store.insertToken id userId secret name expiresAt) := by
  refine h.bind (h.expiryStamp expiresAt) fun expiry => h.bind (hinsert _) fun answer => ?_
  cases answer with
  | ok row => exact h.pure _
  | error refusal => exact h.fail _ (Store.tokenFailure_ofInsert _)

lemma makeCredentials (h : Composes P)
    (hinsert : ∀ {α : Type} (i : Option Stamp → Insertion α), P (store.insert i))
    (hidentifier : P (Block.outside newIdentifier))
    (hsecret : P (Block.outside (newSecret secretSize))) (userId : String) (name : Text)
    (isStaff : Flag) (tokenName : Label) (expiresAt : Option DateTime) :
    P (makeCredentials store userId name isStaff tokenName expiresAt) := by
  refine h.bind (h.insertUser hinsert _ _ _) fun user => ?_
  refine h.bind hidentifier fun tokenId => h.bind hsecret fun secret => ?_
  exact h.bind (h.insertToken hinsert _ _ _ _ _) fun token => h.pure _

end Block.Composes

/-! ### Causes of failures -/

section

variable {α β : Type} {C : Cause → Prop}

/-- An action that fails for causes of one kind only. -/
def Action.FailsFor (C : Cause → Prop) (a : Action α) : Prop :=
  ∀ w f, (a w).1 = .error f → C f.cause

def Block.FailsFor (C : Cause → Prop) (b : Block α) : Prop :=
  ∀ s w f, (b s w).1.1 = .error f → C f.cause

lemma Action.FailsFor.bind {a : Action α} {g : α → Action β} (ha : a.FailsFor C)
    (hg : ∀ x, (g x).FailsFor C) : (a >>= g).FailsFor C := by
  intro w f hf
  rcases hx : (a >>= g) w with ⟨x, w'⟩
  rw [hx] at hf
  obtain ⟨e, he, rfl⟩ | ⟨y, w₁, -, hy⟩ := bind_cases hx
  · cases hf
    exact ha w f (by rw [he])
  · exact hg y w₁ f (by rw [hy]; exact hf)

namespace Block

lemma failsFor_pure (a : α) : (pure a : Block α).FailsFor C := by
  rintro s w f ⟨⟩

lemma failsFor_fail {c : Cause} (h : C c) : (fail c : Block α).FailsFor C := by
  rintro s w f ⟨⟩
  exact h

lemma failsFor_outside {a : Action α} (ha : a.FailsFor C) : (Block.outside a).FailsFor C :=
  fun _ w f hf => ha w f hf

lemma FailsFor.bind {b : Block α} {g : α → Block β} (hb : b.FailsFor C)
    (hg : ∀ a, (g a).FailsFor C) : (b >>= g).FailsFor C := by
  intro s w f hf
  rcases hx : (b >>= g) s w with ⟨⟨x, s'⟩, w'⟩
  rw [hx] at hf
  obtain ⟨e, he, rfl⟩ | ⟨y, s₁, w₁, -, hy⟩ := bind_cases hx
  · cases hf
    exact hb s w f (by rw [he])
  · exact hg y s₁ w₁ f (by rw [hy]; exact hf)

lemma composes_failsFor (h : ∀ c, c.OfInsert → C c) : Composes (FailsFor C) where
  pure := failsFor_pure
  fail c hc := failsFor_fail (h c hc)
  bind := FailsFor.bind

end Block

namespace Store

/-- An insert tells of a refusal by its answer, and never fails itself. -/
lemma insert_failsFor (store : Store) (i : Option Stamp → Insertion α) :
    (store.insert i).FailsFor C := by
  intro s w f hf
  rcases hx : store.insert i s w with ⟨⟨x, s'⟩, w'⟩
  rw [hx] at hf
  obtain ⟨settled, -, -, hok | ⟨e, hok⟩, -⟩ := insert_cases hx
  · rw [hok] at hf
    cases hf
  · rw [hok] at hf
    cases hf

lemma rollBack_failsFor (faults : Faults) {failure f : Failure} (s : Session) (w : World)
    (h : C failure.cause)
    (hf : (rollBack faults failure s w : Except Failure α × World).1 = .error f) : C f.cause := by
  obtain ⟨f', w', hr, hcause⟩ : ∃ f' w', (rollBack faults failure s w :
      Except Failure α × World) = (.error f', w') ∧ f'.cause = failure.cause :=
    rollBack_error faults failure s w
  rw [hr] at hf
  cases hf
  rwa [hcause]

/-- A transaction fails as its block does, or because it cannot be committed. -/
lemma transaction_failsFor (store : Store) (hcommit : C (.store .notCommitted)) {body : Block α}
    (h : body.FailsFor C) : (store.transaction body).FailsFor C := by
  intro w f hf
  unfold transaction finish at hf
  rcases hbody : body {} w with ⟨⟨result, s⟩, w₁⟩
  rw [hbody] at hf
  dsimp only at hf
  cases result with
  | error failure => exact rollBack_failsFor _ _ _ (h {} w failure (by rw [hbody])) hf
  | ok a =>
    dsimp only at hf
    split at hf
    · exact rollBack_failsFor _ _ _ hcommit hf
    · cases hf

end Store

end

end BearerAccess
