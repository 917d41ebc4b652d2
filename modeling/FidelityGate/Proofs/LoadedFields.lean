import FidelityGate.Pack.Load
import FidelityGate.Pack.Plain
import Mathlib.Data.List.Basic
import Mathlib.Data.List.Nodup
import Mathlib.Tactic.Common

/-!
# Fields that are loaded

A record is loaded field by field.  What is loaded for a field is of the kind that the field
declares, however loosely it was given, and a field that holds a value of its kind is loaded as this
value.
-/

namespace FidelityGate

/-! ## Results of loading -/

namespace Checked

variable {α β : Type}

theorem map_eq_ok_iff {f : α → β} {x : Checked α} {b : β} :
    f <$> x = .ok b ↔ ∃ a, x = .ok a ∧ f a = b := by
  cases x <;> simp [Functor.map, map]

theorem seq_eq_ok_iff {f : Checked (α → β)} {x : Checked α} {b : β} :
    f <*> x = .ok b ↔ ∃ g a, f = .ok g ∧ x = .ok a ∧ g a = b := by
  cases f <;> cases x <;> simp [Seq.seq, seq]

theorem under_eq_ok_iff {step : Step} {x : Checked α} {a : α} :
    x.under step = .ok a ↔ x = .ok a := by
  cases x <;> simp [under]

theorem bind_ite_eq_ok_iff {x : Checked α} {p : α → Prop} [DecidablePred p] {complaint : Complaint}
    {a : α} :
    (x.bind fun a ↦ if p a then .ok a else .fail complaint) = .ok a ↔ x = .ok a ∧ p a := by
  cases x with
  | ok b =>
      by_cases h : p b
      · simp only [bind, if_pos h, ok.injEq]
        constructor
        · rintro rfl
          exact ⟨rfl, h⟩
        · exact And.left
      · simp only [bind, if_neg h, ok.injEq]
        constructor
        · rintro ⟨⟩
        · rintro ⟨rfl, hp⟩
          exact absurd hp h
  | bad issues => simp [bind]

def toOption : Checked α → Option α
  | .ok value => some value
  | .bad _ => none

/-- What a loaded value shows when it is looked at through a function. -/
theorem exists_of_toOption_map {x : Checked α} {f : α → β} {b : β}
    (h : x.toOption.map f = some b) : ∃ a, x = .ok a ∧ f a = b := by
  cases x with
  | ok a => exact ⟨a, rfl, Option.some.inj h⟩
  | bad issues => cases h

theorem exists_of_mem_each {load : β → Checked α} {position : Nat} {values : List β}
    {items : List α} (h : each load position values = .ok items) {item : α} (hitem : item ∈ items) :
    ∃ v, load v = .ok item := by
  induction values generalizing position items with
  | nil =>
      cases h
      cases hitem
  | cons v rest ih =>
      obtain ⟨_, others, hfirst, hothers, rfl⟩ := seq_eq_ok_iff.mp h
      obtain ⟨first, hload, rfl⟩ := map_eq_ok_iff.mp hfirst
      rcases List.mem_cons.mp hitem with rfl | hitem
      · exact ⟨v, under_eq_ok_iff.mp hload⟩
      · exact ih hothers hitem

theorem each_map {load : β → Checked α} {write : α → β} {items : List α}
    (h : ∀ item ∈ items, load (write item) = .ok item) (position : Nat) :
    each load position (items.map write) = .ok items := by
  induction items generalizing position with
  | nil => rfl
  | cons item rest ih =>
      have hitem : load (write item) = .ok item := h item List.mem_cons_self
      have hothers : ∀ other ∈ rest, load (write other) = .ok other :=
        fun other hother ↦ h other (List.mem_cons_of_mem item hother)
      have hrest := ih hothers (position + 1)
      rw [List.map_cons, each, hitem, hrest, under_ok, map_ok, ok_seq_ok]

end Checked

/-- Where no key is repeated, every entry is found. -/
theorem Value.lookup?_of_mem {fields : List (String × Value)} {key : String} {v : Value}
    (hdistinct : (fields.map (·.1)).Nodup) (h : (key, v) ∈ fields) :
    lookup? key fields = some v := by
  rw [lookup?, Option.map_eq_some_iff]
  have hsome : (fields.reverse.find? fun field ↦ field.1 = key).isSome := by
    rw [List.find?_isSome]
    exact ⟨(key, v), List.mem_reverse.mpr h, by simp⟩
  obtain ⟨found, hfound⟩ := Option.isSome_iff_exists.mp hsome
  have hmem : found ∈ fields := List.mem_reverse.mp (List.mem_of_find?_eq_some hfound)
  have hkey : found.1 = key := by simpa using List.find?_some hfound
  have hsame : found = (key, v) := List.inj_on_of_nodup_map hdistinct hmem h hkey
  exact ⟨found, hfound, by rw [hsame]⟩

/-! ## Kinds of numbers -/

namespace Number

def IsInt (n : Number) : Prop :=
  ∃ i, n = .int i

def IsDouble (n : Number) : Prop :=
  ∃ x, n = .double x

end Number

/-! ## Fields -/

namespace Load

open Checked

variable {α : Type} {fields : List (String × Value)} {key : String}

theorem field_of_lookup {load : Value → Checked α} {default a : α} {v : Value}
    (h : load v = .ok a) (hlookup : Value.lookup? key fields = some v) :
    field load default fields key = .ok a := by
  simp [field, hlookup, h]

theorem eq_default_or_exists_of_field {load : Value → Checked α} {default a : α}
    (h : field load default fields key = .ok a) : a = default ∨ ∃ v, load v = .ok a := by
  unfold field at h
  split at h
  · exact .inl (Checked.ok.inj h).symm
  next v _ => exact .inr ⟨v, under_eq_ok_iff.mp h⟩

theorem textField_of_lookup {s : String} (hlookup : Value.lookup? key fields = some (.text s)) :
    textField fields key = .ok s :=
  field_of_lookup rfl hlookup

theorem integerField_isInt {n : Number} (h : integerField fields key = .ok n) : n.IsInt := by
  obtain ⟨i, -, rfl⟩ := map_eq_ok_iff.mp h
  exact ⟨i, rfl⟩

theorem integerField_of_lookup {n : Number} (hn : n.IsInt)
    (hlookup : Value.lookup? key fields = some n.toValue) : integerField fields key = .ok n := by
  obtain ⟨i, rfl⟩ := hn
  exact map_eq_ok_iff.mpr ⟨i, field_of_lookup rfl hlookup, rfl⟩

theorem numberField_isDouble {form : Form} {n : Number} (h : numberField form fields key = .ok n) :
    n.IsDouble := by
  obtain ⟨x, -, rfl⟩ := map_eq_ok_iff.mp h
  exact ⟨x, rfl⟩

theorem numberField_of_lookup {form : Form} {n : Number} (hn : n.IsDouble)
    (hlookup : Value.lookup? key fields = some n.toValue) :
    numberField form fields key = .ok n := by
  obtain ⟨x, rfl⟩ := hn
  exact map_eq_ok_iff.mpr ⟨x, field_of_lookup rfl hlookup, rfl⟩

theorem exists_of_mem_listField {load : Value → Checked α} {items : List α}
    (h : listField load fields key = .ok items) {item : α} (hitem : item ∈ items) :
    ∃ v, load v = .ok item := by
  rcases eq_default_or_exists_of_field h with rfl | ⟨v, hv⟩
  · cases hitem
  · cases v with
    | list values | stream values => exact exists_of_mem_each hv hitem
    | _ => cases hv

theorem listField_of_lookup {load : Value → Checked α} {write : α → Value} {items : List α}
    (h : ∀ item ∈ items, load (write item) = .ok item)
    (hlookup : Value.lookup? key fields = some (.list (items.map write))) :
    listField load fields key = .ok items := by
  have hlist : list load (.list (items.map write)) = .ok items := each_map h 0
  exact field_of_lookup hlist hlookup

theorem exists_fields_of_record {name : String} {load : List (String × Value) → Checked α}
    {v : Value} {a : α} (h : record name load v = .ok a) : ∃ fields, v = .object fields := by
  cases v with
  | object fields => exact ⟨fields, rfl⟩
  | _ => cases h

end Load

/-! ## Token counts -/

namespace Usage

open Checked

theorem mem_putEntry {label : String} {count : Number} {entries : List (String × Number)}
    {entry : String × Number} (h : entry ∈ putEntry label count entries) :
    entry = (label, count) ∨ entry ∈ entries := by
  induction entries with
  | nil => simpa [putEntry] using h
  | cons first rest ih =>
      unfold putEntry at h
      split at h
      · exact (List.mem_cons.mp h).imp_right (List.mem_cons_of_mem first)
      · rcases List.mem_cons.mp h with rfl | hrest
        · exact .inr List.mem_cons_self
        · exact (ih hrest).imp_right (List.mem_cons_of_mem first)

theorem putEntry_of_new {label : String} (count : Number) {entries : List (String × Number)}
    (h : label ∉ entries.map (·.1)) :
    putEntry label count entries = entries ++ [(label, count)] := by
  induction entries with
  | nil => rfl
  | cons first rest ih =>
      rw [List.map_cons, List.mem_cons, not_or] at h
      rw [putEntry, if_neg (Ne.symm h.1), ih h.2, List.cons_append]

theorem mem_entries_foldl {entries : List (String × Number)} {usage : Usage}
    {entry : String × Number}
    (h : entry ∈ (entries.foldl (fun usage entry ↦ usage.put entry.1 entry.2) usage).entries) :
    entry ∈ usage.entries ∨ entry ∈ entries := by
  induction entries generalizing usage with
  | nil => exact .inl h
  | cons first rest ih =>
      rcases ih h with hput | hrest
      · rcases mem_putEntry hput with rfl | hold
        · exact .inr List.mem_cons_self
        · exact .inl hold
      · exact .inr (List.mem_cons_of_mem first hrest)

theorem entries_foldl_of_new {entries : List (String × Number)} {usage : Usage}
    (h : ((usage.entries ++ entries).map (·.1)).Nodup) :
    (entries.foldl (fun usage entry ↦ usage.put entry.1 entry.2) usage).entries =
      usage.entries ++ entries := by
  induction entries generalizing usage with
  | nil => simp
  | cons first rest ih =>
      have hnew : first.1 ∉ usage.entries.map (·.1) := by
        intro hmem
        rw [List.map_append, List.map_cons] at h
        exact (List.nodup_append.mp h).2.2 _ hmem _ List.mem_cons_self rfl
      have hput : (usage.put first.1 first.2).entries = usage.entries ++ [first] :=
        putEntry_of_new first.2 hnew
      rw [List.foldl_cons, ih, hput, List.append_assoc, List.singleton_append]
      rwa [hput, List.append_assoc, List.singleton_append]

/-- The counts of distinct sections are kept in their order. -/
theorem ofList_entries (usage : Usage) : ofList usage.entries = usage := by
  have hentries : (ofList usage.entries).entries = usage.entries :=
    entries_foldl_of_new usage.distinct
  cases hsame : ofList usage.entries with
  | mk entries distinct =>
      obtain ⟨_, _⟩ := usage
      rw [hsame] at hentries
      subst hentries
      rfl

variable {count : Value → Checked Number}

theorem exists_of_mem_loadEntries {fields : List (String × Value)}
    {entries : List (String × Number)} (h : loadEntries count fields = .ok entries)
    {entry : String × Number} (hentry : entry ∈ entries) : ∃ v, count v = .ok entry.2 := by
  induction fields generalizing entries with
  | nil =>
      cases h
      cases hentry
  | cons field rest ih =>
      obtain ⟨_, others, hfirst, hothers, rfl⟩ := seq_eq_ok_iff.mp h
      obtain ⟨_, hlabelled, rfl⟩ := map_eq_ok_iff.mp hfirst
      obtain ⟨n, hcount, rfl⟩ := map_eq_ok_iff.mp hlabelled
      rcases List.mem_cons.mp hentry with rfl | hentry
      · exact ⟨field.2, under_eq_ok_iff.mp hcount⟩
      · exact ih hothers hentry

theorem loadEntries_map {entries : List (String × Number)}
    (h : ∀ entry ∈ entries, count entry.2.toValue = .ok entry.2) :
    loadEntries count (entries.map fun entry ↦ (entry.1, entry.2.toValue)) = .ok entries := by
  induction entries with
  | nil => rfl
  | cons entry rest ih =>
      have hentry : count entry.2.toValue = .ok entry.2 := h entry List.mem_cons_self
      have hrest := ih fun other hother ↦ h other (List.mem_cons_of_mem entry hother)
      rw [List.map_cons, loadEntries, hentry, hrest, under_ok, map_ok, map_ok, ok_seq_ok]

def IsTyped (usage : Usage) : Prop :=
  ∀ entry ∈ usage.entries, entry.2.IsInt

theorem isTyped_of_load {v : Value} {usage : Usage} (h : load v = .ok usage) : usage.IsTyped := by
  cases v with
  | object fields =>
      obtain ⟨entries, hentries, rfl⟩ := map_eq_ok_iff.mp h
      intro entry hentry
      have hmem : entry ∈ entries := (mem_entries_foldl hentry).resolve_left List.not_mem_nil
      obtain ⟨v, hcount⟩ := exists_of_mem_loadEntries hentries hmem
      obtain ⟨i, -, hi⟩ := map_eq_ok_iff.mp hcount
      exact ⟨i, hi.symm⟩
  | _ => cases h

theorem load_toValue {usage : Usage} (h : usage.IsTyped) : load usage.toValue = .ok usage := by
  have hcount : ∀ entry ∈ usage.entries,
      Number.int <$> Load.integer entry.2.toValue = .ok entry.2 := by
    intro entry hentry
    obtain ⟨i, hi⟩ := h entry hentry
    rw [hi]
    rfl
  exact map_eq_ok_iff.mpr ⟨usage.entries, loadEntries_map hcount, ofList_entries usage⟩

end Usage

end FidelityGate
