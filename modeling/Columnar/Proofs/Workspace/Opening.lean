import Mathlib.Tactic.Common
import Columnar.Proofs.Workspace.Session
import Columnar.Proofs.Workspace.WellFormed

/-!
# Making and opening records

What the parts of operations on a workspace do: each keeps the workspace well-formed, and says where
what it made can be found. A column that is added has a record that stands for it, and opening the
record of a well-formed column gives a view of it.
-/

namespace Columnar.Session
open Workspace
variable {w : Workspace} {id : Nat}

section Adding

lemma keeps_addRecord {r : Record} (h : w.WellFormed) (refers : w.Refers r w.records.size) :
    Keeps WellFormed (addRecord r) w fun id w' => id = w.records.size ∧ w' = w.withRecord r := by
  refine ⟨h.withRecord refers, fun a e => ?_⟩
  cases e
  exact ⟨rfl, rfl⟩

lemma keeps_addView {v : View} (h : (w.withView v).WellFormed) :
    Keeps WellFormed (addView v) w fun id w' => id = w.views.size ∧ w' = w.withView v := by
  refine ⟨h, fun a e => ?_⟩
  cases e
  exact ⟨rfl, rfl⟩

/-- Buffers that are added can be found by their numbers. -/
lemma keeps_addBuffers {inv : Workspace → Prop} (bs : List (Option Buffer))
    (kept : ∀ w b, inv w → inv (w.withBuffer b)) (h : inv w) :
    Keeps inv (addBuffers bs) w fun ids w' =>
      w'.Extends w ∧ w'.records = w.records ∧ (∀ b, some b ∈ ids → b < w'.buffers.size) ∧
        ids.map (·.bind fun b => w'.buffers[b]?) = bs := by
  induction bs generalizing w with
  | nil => exact .answer h ⟨extends_of_eq rfl rfl, rfl, nofun, rfl⟩
  | cons b bs ih =>
    cases b with
    | none =>
      refine (ih h).bind fun ids w' h' => ?_
      rintro ⟨ext, records, inside, found⟩
      refine .answer h' ⟨ext, records, fun b hb => ?_, ?_⟩
      · exact inside b (by simpa using hb)
      · rw [List.map_cons, found]
        rfl
    | some b =>
      have first : Keeps inv (addBuffer b) w fun id w' =>
          id = w.buffers.size ∧ w' = w.withBuffer b := by
        refine ⟨kept w b h, fun a e => ?_⟩
        cases e
        exact ⟨rfl, rfl⟩
      refine first.bind fun id w₁ h₁ => ?_
      rintro ⟨rfl, rfl⟩
      refine (ih h₁).bind fun ids w' h' => ?_
      rintro ⟨ext, records, inside, found⟩
      have lt : w.buffers.size < (w.withBuffer b).buffers.size := by simp [Workspace.withBuffer]
      have here : (w.withBuffer b).buffers[w.buffers.size]? = some b := Array.getElem?_push_size
      refine .answer h' ⟨ext.trans (extends_withBuffer w b), records, fun i hi => ?_, ?_⟩
      · rcases List.mem_cons.1 hi with e | hi
        · cases e
          exact Nat.lt_of_lt_of_le lt ext.buffers
        · exact inside i hi
      · rw [List.map_cons, found, Option.bind_some, ext.buffer _ lt, here]

/-- A record over buffers that were added stands for the column that they come from. -/
lemma column_added {w' : Workspace} {c : Column} {ids : List (Option Nat)} {dictionary : Option Nat}
    (furnished : w.Furnished) (furnished' : w'.Furnished)
    (added : w'.Extends w ∧ w'.records = w.records ∧ (∀ b, some b ∈ ids → b < w'.buffers.size) ∧
      ids.map (·.bind fun b => w'.buffers[b]?) = c.buffers)
    (older : ∀ d, dictionary = some d → d < w.records.size)
    (same : c.dictionary = dictionary.map w.column) :
    w'.Refers ⟨c.type, c.length, c.offset, c.nullCount, ids, dictionary⟩ w'.records.size ∧
      (w'.withRecord ⟨c.type, c.length, c.offset, c.nullCount, ids, dictionary⟩).column
        w'.records.size = c := by
  obtain ⟨ext, records, inside, found⟩ := added
  have refers : w'.Refers ⟨c.type, c.length, c.offset, c.nullCount, ids, dictionary⟩
      w'.records.size := ⟨inside, by rw [records]; exact older⟩
  have kept : dictionary.map w'.column = dictionary.map w.column := by
    refine Option.map_congr fun d hd => ?_
    exact ext.column furnished (older d hd)
  refine ⟨refers, ?_⟩
  rw [column_withRecord furnished' refers]
  simp only [found, kept]
  rw [← same]
  cases c
  rfl

/-- A new record for a column with new buffers. -/
lemma keeps_addWithDictionary {c : Column} {dictionary : Option Nat} (h : w.WellFormed)
    (older : ∀ d, dictionary = some d → d < w.records.size)
    (same : c.dictionary = dictionary.map w.column) :
    Keeps WellFormed (addWithDictionary c dictionary) w fun id w' =>
      id < w'.records.size ∧ w'.column id = c := by
  refine (keeps_addBuffers c.buffers (fun _ b h => h.withBuffer b) h).bind fun ids w₁ h₁ added => ?_
  obtain ⟨refers, column⟩ := column_added h.furnished h₁.furnished added older same
  refine (keeps_addRecord h₁ refers).weaken fun id w' _ => ?_
  rintro ⟨rfl, rfl⟩
  exact ⟨by rw [size_withRecord]; exact Nat.lt_succ_self _, column⟩

/-- A new record for a column of which nothing is shared. -/
lemma keeps_addColumn (c : Column) (h : w.WellFormed) :
    Keeps WellFormed (addColumn c) w fun id w' => id < w'.records.size ∧ w'.column id = c := by
  induction c using addColumn.induct generalizing w with
  | case1 t n o k bs => exact keeps_addWithDictionary h nofun rfl
  | case2 t n o k bs d ih =>
    refine (ih h).bind fun id w' h' => ?_
    rintro ⟨lt, found⟩
    refine keeps_addWithDictionary h' (fun e same => ?_) ?_
    · cases same
      exact lt
    · rw [Option.map_some, found]

end Adding

section Opening

lemma keeps_setNullCount {n : Int} (h : w.WellFormed) (hid : id < w.records.size)
    (right : (w.column id).Admits n) :
    Keeps WellFormed (setNullCount id n) w fun _ w' => w' = w.withCount id n :=
  .change (h.withCount hid right)

lemma type_of_opened {c c' : Column} (h : c.opened = .ok c') :
    c'.type = c.type ∧ c'.nullCount = c.storedCount := by
  rw [Column.eq_of_opened h]
  exact ⟨rfl, rfl⟩

/-- The record that the keys of a dictionary column get. -/
def keysRecord (w : Workspace) (id : Nat) (k : IntKind) : Record :=
  { w.record id with type := .int k, dictionary := none }

lemma refers_keysRecord {k : IntKind} (furnished : w.Furnished) (hid : id < w.records.size) :
    w.Refers (keysRecord w id k) w.records.size := ⟨(furnished id hid).buffers, nofun⟩

lemma column_keysRecord {k : IntKind} {value : DataType} {ordered : Bool} (furnished : w.Furnished)
    (hid : id < w.records.size) (type : (w.column id).type = .dictionary k value ordered) :
    (w.withRecord (keysRecord w id k)).column w.records.size = (w.column id).keys := by
  rw [column_withRecord furnished (refers_keysRecord furnished hid), Column.keys, type,
    column_of_furnished furnished hid]
  rfl

lemma keeps_addPlain (h : w.WellFormed) (hid : id < w.records.size)
    (column : (w.column id).WellFormed) :
    Keeps WellFormed (addView ⟨id, none, none⟩) w fun v w' => v < w'.views.size := by
  refine (keeps_addView (h.withView (v := ⟨id, none, none⟩) hid column nofun rfl)).weaken
    fun v w' _ => ?_
  rintro ⟨rfl, rfl⟩
  rw [size_withView]
  exact Nat.lt_succ_self _

lemma keeps_addEncoded {k : IntKind} {value : DataType} {ordered : Bool} (h : w.WellFormed)
    (hid : id < w.records.size) (column : (w.column id).WellFormed)
    (type : (w.column id).type = .dictionary k value ordered) :
    Keeps WellFormed (do
      let keys ← addRecord (keysRecord w id k)
      let keysView ← addView ⟨keys, none, none⟩
      addView ⟨id, some keysView, none⟩) w fun v w' => v < w'.views.size := by
  refine (keeps_addRecord h (refers_keysRecord h.furnished hid)).bind fun _ w₁ h₁ => ?_
  rintro ⟨rfl, rfl⟩
  have size := size_withRecord w (keysRecord w id k)
  have inside : id < (w.withRecord (keysRecord w id k)).records.size := by omega
  have keys := column_keysRecord h.furnished hid type
  have same := (extends_withRecord w (keysRecord w id k)).column h.furnished hid
  refine (keeps_addView (h₁.withView (v := ⟨w.records.size, none, none⟩) ?_ ?_ nofun rfl)).bind
    fun _ w₂ h₂ => ?_
  · rw [size]
    exact Nat.lt_succ_self _
  · rw [keys]
    exact column.keys
  rintro ⟨rfl, rfl⟩
  have ext := extends_withView (w.withRecord (keysRecord w id k)) ⟨w.records.size, none, none⟩
  refine (keeps_addView (h₂.withView (v := ⟨id, some _, none⟩) ?_ ?_ ?_ rfl)).weaken
    fun v w' _ => ?_
  · exact Nat.lt_of_lt_of_le inside ext.records
  · rw [ext.column h₁.furnished inside, same]
    exact column
  · rintro _ ⟨⟩
    rw [size_withView]
    exact Nat.lt_succ_self _
  · rintro ⟨rfl, rfl⟩
    exact Nat.lt_of_lt_of_eq (Nat.lt_succ_self _) (size_withView ..).symm

/-- A view of a well-formed column. -/
lemma keeps_openRecord (h : w.WellFormed) (hid : id < w.records.size)
    (column : (w.column id).WellFormed) :
    Keeps WellFormed (openRecord id) w fun v w' => v < w'.views.size := by
  refine .look (.check h fun c opened => ?_)
  obtain ⟨type, count⟩ := type_of_opened opened
  have right : (w.column id).Admits c.nullCount := count ▸ column.sound.admits_storedCount
  refine (keeps_setNullCount h hid right).bind fun _ w₁ h₁ counted => ?_
  have lt : id < w₁.records.size := by
    rw [counted, size_withCount]
    exact hid
  have typed : (w₁.column id).type = c.type := by
    rw [counted, column_withCount hid, type]
  have kept : (w₁.column id).WellFormed := by
    rw [counted]
    exact wellFormed_withCount hid right column
  cases e : c.type with
  -- A dictionary column gets a record for its keys, which has the same buffers and null count.
  | dictionary k value ordered => exact .look (keeps_addEncoded h₁ lt kept (typed.trans e))
  | _ => exact keeps_addPlain h₁ lt kept

lemma keeps_openNew {r : Record} (h : w.WellFormed) (refers : w.Refers r w.records.size)
    (column : Column.WellFormed ⟨r.type, r.length, r.offset, r.nullCount,
      r.buffers.map (·.bind fun b => w.buffers[b]?), r.dictionary.map w.column⟩) :
    Keeps WellFormed (addRecord r >>= openRecord) w fun v w' => v < w'.views.size := by
  refine (keeps_addRecord h refers).bind fun id w' h' => ?_
  rintro ⟨rfl, rfl⟩
  refine keeps_openRecord h' ?_ ?_
  · rw [size_withRecord]
    exact Nat.lt_succ_self _
  · rw [column_withRecord h.furnished refers]
    exact column

/-- A view of the dictionary of a dictionary column. -/
lemma keeps_openDictionary {v : Nat} (h : w.WellFormed) (hv : v < w.views.size)
    (encoded : (w.columnOf v).type.isDictionary = true) :
    Keeps WellFormed (openDictionary v) w fun d w' => d < w'.views.size := by
  refine .look (.look ?_)
  cases opened : (w.view v).dictionary with
  | some d => exact .answer h (h.dictionary v hv d opened)
  | none =>
    cases named : (w.record (w.view v).record).dictionary with
    | none => exact .fail h
    | some d =>
      obtain ⟨c, found, values⟩ := (h.column v hv).exists_dictionary encoded
      rw [columnOf, column_eq, named, Option.bind_some] at found
      split at found
      · next older =>
        cases found
        have lt := h.record v hv
        refine (keeps_openRecord h (by omega) values).bind fun opened w' h' inside => ?_
        refine (Keeps.change (h'.withDictionary inside v)).bind fun _ w'' h'' changed => ?_
        refine .answer h'' ?_
        rw [changed]
        exact Nat.lt_of_lt_of_eq inside (Array.size_modify ..).symm
      · cases found

end Opening

end Columnar.Session
