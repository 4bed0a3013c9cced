import Mathlib.Tactic.Common
import Columnar.Proofs.Gather.Action

/-!
# Gathering encoded columns

Gathering a dictionary column is gathering its keys, with the very same dictionary. So decoding what
was gathered and gathering what was decoded make the same column: both are gathers from the
dictionary, which act on the keys (`take_encoded`). Only indices and keys make slots null; the
values that the keys name are looked at when the column is decoded.
-/

namespace Columnar

namespace Gather
variable {d i r dict p out : Column} {k : IntKind} {n : Nat} {xs : List (Option Cell)}

/-- Whether a column gathered from a dictionary column has a slot for each index of kind `k`, which
is null where the index or the key that it selects is, and valid elsewhere. -/
structure NullsOfKeys (d i r : Column) (k : IntKind) : Prop where
  length : r.length = i.length
  nulls : ∀ q : Nat, q < i.length → ∃ valid, r.isValid q = .ok valid ∧
    (valid = false ↔ i.isValid q = .ok false ∨ ∃ j : Nat, i.isValid q = .ok true ∧
      i.integer k q = .ok j ∧ d.keys.isValid j = .ok false)

section Keys

/-- Indices name the same slots in columns that are alike. -/
lemma Gathers.of_alike {l : Column} (h : Gathers d i k xs) (alike : l.Alike d) :
    Gathers l i k xs where
  length := h.length
  names q s here := by
    cases h.names q s here with
    | null null => exact .null null
    | slot valid index named slot =>
      exact .slot valid index (alike.length ▸ named) ((alike.slot _).trans slot)

lemma keys_gathered (type : d.type = .dictionary kind value ordered) :
    (gathered d i xs).keys = gathered d.keys i xs := by
  unfold gathered
  rw [needsValidity_keys]
  simp only [Column.keys, Column.laidOut, type]
  rfl

lemma checks_keys {total total' : Nat} {ending : Checked Unit}
    (type : d.type = .dictionary kind value ordered) :
    checks d.keys.type n total ending = checks d.type n total' ending := by
  rw [type, Column.keys, type]
  rfl

/-- A gather of a dictionary column is one of its keys. -/
lemma take_keys {pool : Pool} (grants : pool.Grants)
    (type : d.type = .dictionary kind value ordered) (index : i.type = .int k)
    (gathers : Gathers d i k xs) (fits : xs.length < 2 ^ 63)
    (room : checks d.keys.type xs.length (Column.contents d.keys.type xs).length (.ok ()) =
      .ok ()) :
    ((take d.keys i).run pool).1 = .ok (gathered d i xs).keys := by
  have typed : d.keys.type = .int kind := by rw [Column.keys, type]
  rw [keys_gathered type]
  refine (gathers.of_alike d.alike_keys).run_eq_ok grants index ?_ ?_ fits room
  · rw [typed]
    refine ⟨?_, ?_, ?_⟩
    · rintro ⟨⟩
    · rintro ⟨⟩
    · rintro ⟨⟩
  · rw [typed]
    rintro ⟨⟩

lemma nullsOfKeys_gathered (gathers : Gathers d i k xs)
    (holds : Column.Holds d.type xs (needsValidity d i)) :
    NullsOfKeys d i (gathered d i xs) k := by
  refine ⟨gathers.length.symm, fun q inside => ?_⟩
  rw [gathers.length] at inside
  obtain ⟨s, here, names⟩ := gathers.exists_names (Int.ofNat_lt.1 inside)
  refine ⟨s.isSome, Column.isValid_laidOut holds here, ?_⟩
  rw [Option.isSome_eq_false_iff, Option.isNone_iff_eq_none]
  cases names with
  | null null => exact ⟨fun _ => .inl null, fun _ => rfl⟩
  | @slot j s valid index named slot =>
    have key := d.alike_keys.isValid j
    constructor
    · rintro rfl
      exact .inr ⟨j, valid, index, key.trans (Column.isValid_of_slot slot)⟩
    · rintro (null | ⟨j', -, index', null⟩)
      · cases valid.symm.trans null
      · cases index.symm.trans index'
        have marked := (Column.isValid_of_slot slot).symm.trans (key.symm.trans null)
        rw [Except.ok.injEq, Option.isSome_eq_false_iff, Option.isNone_iff_eq_none] at marked
        exact marked

end Keys

/-- What is gathered from a dictionary column has its dictionary and the gathered keys. It decodes
to what the same indices gather from the decoded column, and its nulls are those of indices and
keys. -/
theorem take_encoded {pool pool₁ pool₂ pool₃ : Pool} (grants : pool.Grants) (hd : d.WellFormed)
    (type : d.type = .dictionary kind value ordered) (hi : i.Sound)
    (opened : d.openDictionary = .ok dict) (run : ((take d i).run pool₁).1 = .ok r)
    (decoded : ((take dict d.keys).run pool₂).1 = .ok p)
    (selected : ((take p i).run pool₃).1 = .ok out) :
    r.dictionary = d.dictionary ∧
    ((take d.keys i).run pool).1 = .ok r.keys ∧
    (∃ e x, r.openDictionary = .ok e ∧ ((take e r.keys).run pool).1 = .ok x ∧
      ∀ same, Column.equals same x out = .ok true) ∧
    (∃ k, i.type = .int k ∧ NullsOfKeys d i r k) ∧
    ∀ (s : Workspace) (a b v : Nat) (same : Bool), s.WellFormed →
      s.registers[a]? = some (some v) → (s.columnOf v).type.isDictionary = true →
      ((do
        let c ← Session.take a b
        Session.sameDictionary a c : Session Bool).run s).1 = .ok same → same = true := by
  have encoded : d.type.isDictionary = true := by
    rw [type]
    rfl
  have hdict := hd.openDictionary encoded opened
  have hk := hd.keys.sound
  obtain ⟨o, n, -, length, fits⟩ := hi.exists_window
  obtain ⟨o', m, -, many, fits'⟩ := hk.exists_window
  have short : n < 2 ^ 63 := by omega
  have short' : m < 2 ^ 63 := by omega
  obtain ⟨k, xs, index, -, gathers, passed, holds, made⟩ :=
    gathers_of_run hd.sound.shaped.readable length short run
  obtain rfl : n = xs.length := Int.ofNat_inj.1 (length.symm.trans gathers.length)
  have room (total : Nat) : checks d.keys.type xs.length total (.ok ()) = .ok () :=
    (checks_keys type).trans passed
  have keys : ((take d.keys i).run pool).1 = .ok r.keys := by
    rw [made]
    exact take_keys grants type index gathers short (room _)
  have shared : r.dictionary = d.dictionary := by
    rw [made]
    exact if_pos encoded
  -- Both are gathers from the dictionary by keys that are gathered first or last.
  obtain ⟨x, keys', whole⟩ := take_comp grants hdict.sound.shaped.readable many short' length
    short room decoded selected
  cases keys.symm.trans keys'
  have deep := (wellFormed_of_take (wellFormed_of_take hdict hk decoded) hi selected).deeplySound
  refine ⟨shared, keys, ⟨dict, out, ?_, whole, fun same => deep.equals_self⟩, ?_,
    fun s a b v same h held typed done =>
      (Session.keeps_sameDictionary_gathered h held typed).2 same done⟩
  · rw [← opened, Column.openDictionary, shared]
    rfl
  · rw [made]
    exact ⟨k, index, nullsOfKeys_gathered gathers holds⟩

/-- A window over keys is gathered with a null index, a null key and a key of a null value. -/
theorem take_encoded_window :
    let values := Column.laidOut .string [some (.bytes #[97]), none, some (.bytes #[98, 99])] true
      none
    let keys := Column.ofInts (.int .w8) [some 0, some 1, none, some 2]
    let type := DataType.dictionary (.int .w8) .string false
    let d := { Column.encoded type keys values with offset := 1, length := 3, nullCount := -1 }
    let i := Column.ofInts (.uint .w16) [some 2, none, some 0, some 1]
    let pool : Pool := ⟨[], .generous, true, {}, fun _ => 0⟩
    pool.Grants ∧ d.WellFormed ∧ i.Sound ∧ ∃ dict r p out, d.openDictionary = .ok dict ∧
      ((take d i).run pool).1 = .ok r ∧ ((take dict d.keys).run pool).1 = .ok p ∧
      ((take p i).run pool).1 = .ok out ∧ r.dictionary = some values ∧
      (∃ k, i.type = .int k ∧ NullsOfKeys d i r k) ∧
      (∃ e x, r.openDictionary = .ok e ∧ ((take e r.keys).run pool).1 = .ok x ∧
        Column.equals false x out = .ok true) ∧
      ∃ same, ((do
        let c ← Session.take 0 1
        Session.sameDictionary 0 c : Session Bool).run
          (Workspace.after { pool } [.load d, .load i])).1 = .ok same ∧ same = true := by
  intro values keys type d i pool
  have grants : pool.Grants := fun _ _ => rfl
  have hv : values.WellFormed := .plain (by decide +kernel) rfl
  have named : d.KeysBelow (.int .w8) 3 := Column.keysBelow_of_checkKeys (by decide +kernel)
  have hd : d.WellFormed := .encoded (by decide +kernel) rfl rfl hv named
  have hi : i.Sound := by decide +kernel
  let r := Column.laidOut type [some (.bytes #[2]), none, some (.bytes #[1]), none] true
    (some values)
  let p := Column.laidOut .string [none, none, some (.bytes #[98, 99])] true none
  let out := Column.laidOut .string [some (.bytes #[98, 99]), none, none, none] true none
  have opened : d.openDictionary = .ok values := rfl
  have run : ((take d i).run pool).1 = .ok r := by decide +kernel
  have decoded : ((take values d.keys).run pool).1 = .ok p := by decide +kernel
  have selected : ((take p i).run pool).1 = .ok out := by decide +kernel
  have loaded : (Workspace.after { pool } [.load d, .load i]).WellFormed :=
    (Workspace.wellFormed_empty pool).after ⟨hd, .plain hi rfl, trivial⟩
  have held : (Workspace.after { pool } [.load d, .load i]).registers[0]? = some (some 1) := by
    decide +kernel
  have typed : ((Workspace.after { pool } [.load d, .load i]).columnOf 1).type.isDictionary =
    true := by decide +kernel
  have answered : ((do
      let c ← Session.take 0 1
      Session.sameDictionary 0 c : Session Bool).run
        (Workspace.after { pool } [.load d, .load i])).1 = .ok true := by decide +kernel
  obtain ⟨shared, -, ⟨e, x, opened', again, equal⟩, nulls, very⟩ :=
    take_encoded grants hd rfl hi opened run decoded selected
  exact ⟨grants, hd, hi, values, r, p, out, opened, run, decoded, selected, shared, nulls,
    ⟨e, x, opened', again, equal false⟩, true, answered,
    very _ 0 1 1 true loaded held typed answered⟩

end Gather

end Columnar
