import Mathlib.Tactic.Common
import Columnar.Workspace.Counting
import Columnar.Proofs.Workspace.TwinOpening

/-!
# Counting in twins

An operation that counts nulls stores what it counted. Twins count the same: where one of them looks
a count up that the other one has to work out, both come to the same number, and so they go the same
way where a comparison is decided by null counts (`tandem_countForComparing`).
-/

namespace Columnar.Session
open Workspace
variable {w w' : Workspace} {id : Nat}

lemma tandem_countRecord (h : w.Twins w') (hid : id < w.records.size) :
    Tandem (countRecord id) (countRecord id) w w' fun _ v v' =>
      ∃ n, v = w.withCount id n ∧ v' = w'.withCount id n := by
  obtain ⟨sound, sound'⟩ := h.sound_column hid
  have same : (w.column id).countNulls.Matches Eq (w'.column id).countNulls := by
    rw [(h.column hid).countNulls sound sound']
    exact .refl (fun _ => rfl) _
  refine .look (.check h same fun n n' counted counted' e => ?_)
  subst e
  refine (tandem_setNullCount h hid (sound.admits_of_countNulls counted)
    (sound'.admits_of_countNulls counted')).weaken fun _ v v' _ made => ?_
  exact ⟨n, made⟩

lemma tandem_countForValidation (h : w.Twins w') (hid : id < w.records.size) :
    Tandem (countForValidation id) (countForValidation id) w w' fun _ u _ => w.Lasts u := by
  refine .look ?_
  rw [(h.column hid).validationCounts]
  split
  · refine (tandem_countRecord h hid).weaken fun _ v v' _ => ?_
    rintro ⟨n, rfl, -⟩
    exact .withCount w id n
  · exact .answer h (.refl w)

lemma tandem_countForView {v : Nat} (h : w.Twins w') (hv : v < w.views.size) :
    Tandem (do countForValidation ((← get).view v).record)
      (do countForValidation ((← get).view v).record) w w' fun _ u _ => w.Lasts u := by
  refine .look ?_
  rw [h.view]
  exact tandem_countForValidation h (h.left.record v hv)

/-- The keys of a view, if it has any, are counted like a column of their own. -/
lemma tandem_countForKeys {v : Nat} (h : w.Twins w') (hv : v < w.views.size) :
    Tandem
      (do
        if let some keys := ((← get).view v).keys then
          countForValidation ((← get).view keys).record : Session Unit)
      (do
        if let some keys := ((← get).view v).keys then
          countForValidation ((← get).view keys).record : Session Unit)
      w w' fun _ u _ => w.Lasts u := by
  refine .look ?_
  rw [h.view]
  cases keys : (w.view v).keys with
  | none => exact .answer h (.refl w)
  | some k =>
    exact tandem_countForView h (h.left.keys v hv k keys)

/-- Printing counts the same, whatever column is taken for that of the view. -/
lemma tandem_countForPrinting {c c' : Column} {v : Nat} (same : c.Recounted c')
    (options : PrintOptions) (h : w.Twins w') (hv : v < w.views.size) :
    Tandem (countForPrinting options c v) (countForPrinting options c' v)
      w w' fun _ u _ => w.Lasts u := by
  induction same generalizing options v w w' with
  | @plain t =>
    cases t with
    | null => exact .answer h (.refl w)
    | dictionary =>
      exact .check h (.refl (R := Eq) (fun _ => rfl) _) fun _ _ _ _ _ => .fail h
    | _ => exact tandem_countForView h hv
  | @encoded t n o m m' bs d d' values ih =>
    cases t with
    | null => exact .answer h (.refl w)
    | dictionary =>
      refine .check h (.refl (R := Eq) (fun _ => rfl) _) fun _ _ _ _ _ => ?_
      refine (tandem_openDictionary h hv).bind fun opened u u' twins => ?_
      rintro ⟨lasts, inside⟩
      refine (ih (Print.indented options) twins inside).bind fun _ x x' twins lasts' => ?_
      have all := lasts.trans lasts'
      exact (tandem_countForKeys twins (all.inside hv)).weaken fun _ _ _ _ more => all.trans more
    | _ => exact tandem_countForView h hv

lemma nullCount_withCount {n : Int} (hid : id < w.records.size) (v : Nat) :
    ((w.withCount id n).columnOf v).nullCount =
      if (w.view v).record = id then n else (w.columnOf v).nullCount := by
  show ((w.withCount id n).column (w.view v).record).nullCount = _
  rw [column_withCount hid]
  rfl

/-- Two views that were counted alike have the same null count in twins. -/
lemma nullCount_counted {a b v : Nat} {n m : Int} (h : w.Twins w') (ha : a < w.records.size)
    (hb : b < w.records.size) (counted : (w.view v).record = a ∨ (w.view v).record = b) :
    (((w'.withCount a n).withCount b m).columnOf v).nullCount =
      (((w.withCount a n).withCount b m).columnOf v).nullCount := by
  have inside : b < (w.withCount a n).records.size := by
    rw [size_withCount]
    exact hb
  have inside' : b < (w'.withCount a n).records.size := by
    rw [size_withCount, h.size]
    exact hb
  have view : (w'.withCount a n).view v = (w.withCount a n).view v := h.view v
  rw [nullCount_withCount inside, nullCount_withCount inside', view, nullCount_withCount ha,
    nullCount_withCount (h.size ▸ ha), h.view]
  rcases counted with here | here
  · rw [if_pos here, if_pos here]
  · rw [if_pos (show ((w.withCount a n).view v).record = b from here),
      if_pos (show ((w.withCount a n).view v).record = b from here)]

/-- What decides a comparison before it comes to the slots is the same in twins. -/
lemma tandem_countForComparing {l r : Nat} {dictionaries dictionaries' : Session Unit}
    (h : w.Twins w') (hl : l < w.views.size) (hr : r < w.views.size)
    (compared : ∀ v v' : Workspace, v.Twins v' → w.Lasts v →
      Tandem dictionaries dictionaries' v v' fun _ u _ => v.Lasts u) :
    Tandem (countForComparing l r dictionaries) (countForComparing l r dictionaries') w w'
      fun _ u _ => w.Lasts u := by
  rw [countForComparing, countForComparing]
  by_cases one : l = r
  · rw [if_pos one, if_pos one]
    exact .answer h (.refl w)
  rw [if_neg one, if_neg one]
  have left := h.columnOf hl
  have right := h.columnOf hr
  refine .look ?_
  rw [left.length, right.length]
  split
  · exact .answer h (.refl w)
  rw [h.view, h.view]
  refine (tandem_countRecord h (h.left.record l hl)).bind fun _ u u' twins => ?_
  rintro ⟨n, rfl, rfl⟩
  refine (tandem_countRecord twins ?_).bind fun _ x x' twins => ?_
  · rw [size_withCount]
    exact h.left.record r hr
  rintro ⟨m, rfl, rfl⟩
  refine .look ?_
  have typed := (twins.columnOf hl).type
  have typed' := (twins.columnOf hr).type
  have length := (twins.columnOf hl).length
  have ha := h.left.record l hl
  have hb := h.left.record r hr
  rw [typed, typed', length, nullCount_counted h ha hb (.inl rfl),
    nullCount_counted h ha hb (.inr rfl)]
  have lasts := (Lasts.withCount w (w.view l).record n).trans (.withCount _ (w.view r).record m)
  split
  · exact .answer twins lasts
  split
  · exact .answer twins lasts
  split
  · exact .answer twins lasts
  split
  · exact (compared _ _ twins lasts).weaken fun _ _ _ _ more => lasts.trans more
  · exact .answer twins lasts

/-- Comparing counts the same, whatever columns are taken for that of the first view. -/
lemma tandem_countForEquality {c c' : Column} {l r : Nat} (same : c.Recounted c') (h : w.Twins w')
    (hl : l < w.views.size) (hr : r < w.views.size) :
    Tandem (countForEquality c l r) (countForEquality c' l r) w w' fun _ u _ => w.Lasts u := by
  induction same generalizing l r w w' with
  | plain => exact tandem_countForComparing h hl hr fun _ _ twins _ => .fail twins
  | encoded values ih =>
    refine tandem_countForComparing h hl hr fun v v' twins lasts => ?_
    refine (tandem_openDictionary twins (lasts.inside hl)).bind fun a u u' twins => ?_
    rintro ⟨lasts', inside⟩
    have still := lasts'.inside (lasts.inside hr)
    refine (tandem_openDictionary twins still).bind fun b x x' twins => ?_
    rintro ⟨lasts'', inside'⟩
    exact (ih twins (lasts''.inside inside) inside').weaken fun _ _ _ _ more =>
      (lasts'.trans lasts'').trans more

lemma tandem_countForRange {l r : Nat} (h : w.Twins w') (hl : l < w.views.size)
    (hr : r < w.views.size) (start stop other : Int) :
    Tandem (countForRange l r start stop other) (countForRange l r start stop other) w w'
      fun _ u _ => w.Lasts u := by
  rw [countForRange]
  split
  · exact .answer h (.refl w)
  refine .look ?_
  rw [(h.columnOf hl).type, (h.columnOf hr).type]
  split
  · exact .answer h (.refl w)
  split
  · exact .answer h (.refl w)
  split
  · refine (tandem_openDictionary h hl).bind fun x u u' twins => ?_
    rintro ⟨lasts, inside⟩
    refine (tandem_openDictionary twins (lasts.inside hr)).bind fun y v v' twins => ?_
    rintro ⟨lasts', inside'⟩
    have here := lasts'.inside inside
    refine .look ((tandem_countForEquality (twins.columnOf here) twins here inside').weaken ?_)
    exact fun _ _ _ _ more => (lasts.trans lasts').trans more
  · exact .answer h (.refl w)

end Columnar.Session
