import Columnar.Proofs.DataType.Text

/-!
# Equality of types is equality of kinds and parameters

Types are compared by identity number and text. `DataType.Agrees` compares them part by part
instead, and goes down into the values of dictionary types without their text. Main statement: both
come to the same (`DataType.equals_iff_agrees`), so no time zone makes two types look alike.
-/

namespace Columnar.DataType
variable {s t : DataType}

/-- Whether two types have the same identity number and the same parameters: unit, time zone,
precision and scale, and for dictionary types the index, the order and what holds of the values. -/
def Agrees : DataType → DataType → Prop
  | timestamp u y, timestamp v z => u = v ∧ y = z
  | time32 u, time32 v => u = v
  | time64 u, time64 v => u = v
  | duration u, duration v => u = v
  | decimal128 p r, decimal128 q s => p = q ∧ r = s
  | dictionary j s a, dictionary k t b => j = k ∧ a = b ∧ Agrees s t
  | s, t => s.id = t.id

lemma Agrees.refl (t : DataType) : t.Agrees t := by
  induction t with
  | timestamp u z => exact ⟨rfl, rfl⟩
  | decimal128 p s => exact ⟨rfl, rfl⟩
  | dictionary k t ordered ih => exact ⟨rfl, rfl, ih⟩
  | _ => rfl

/-- Types that agree are of one kind. -/
lemma Agrees.bare_eq (h : s.Agrees t) : s.bare = t.bare := by
  have id_bare : ∀ t : DataType, t.bare.id = t.id := fun t => by cases t <;> rfl
  have apart : ∀ s ∈ kinds, ∀ t ∈ kinds, s.id = t.id → s = t := by decide +kernel
  refine apart _ (bare_mem_kinds s) _ (bare_mem_kinds t) ?_
  rw [id_bare, id_bare]
  unfold Agrees at h
  split at h
  all_goals first | rfl | exact h

/-- Types that agree are the same. -/
lemma Agrees.eq (h : s.Agrees t) : s = t := by
  have apart : Separates Agrees :=
    ⟨bare_eq, fun h => h, fun h => h, fun h => h, fun h => h, fun h => h, fun h => h⟩
  exact apart.eq h

/-- Types are equal by identity number and text exactly if they agree in their kind and in every
parameter, and no two types have the same text. -/
theorem equals_iff_agrees (s t : DataType) :
    (s.equals t = true ↔ s.Agrees t) ∧ (s.Agrees t ↔ s = t) ∧ (s.text = t.text ↔ s = t) := by
  have agrees : s.Agrees t ↔ s = t := ⟨Agrees.eq, fun e => e ▸ Agrees.refl s⟩
  exact ⟨equals_iff.trans agrees.symm, agrees, text_injective, congrArg text⟩

/-- A time zone that spells the end of a dictionary type is not taken for one. -/
example : equals
    (dictionary (.int .w8) (timestamp .second (Text.ascii "], indices=int8, ordered=0>")) false)
    (dictionary (.int .w8) (timestamp .second []) false) = false := by decide

end Columnar.DataType
