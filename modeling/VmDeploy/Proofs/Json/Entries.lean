import Mathlib.Data.List.Induction
import Mathlib.Data.List.Sort
import Mathlib.Data.String.Basic
import VmDeploy.Keyed

/-!
# Entries in ascending order

A finite map is its entries in ascending order of their keys (`Keyed.Ascending`). What is made of
a list of entries is in this order, whatever the list (`Keyed.ascending_ofList`), and nothing
changes where it is in this order already (`Keyed.Ascending.ofList_eq`).

Of a list of entries the last of each key counts (`Keyed.last?`), so lists make one map if and only
if they agree on those (`Keyed.ofList_eq_iff`), in whatever order they stand.
-/

set_option autoImplicit false

namespace VmDeploy.Keyed

variable {α : Type} {key : String} {value : α} {entries : Keyed α}

/-- The keys stand in ascending order, so there is one entry for each. -/
def Ascending (entries : Keyed α) : Prop := entries.Pairwise fun a b => a.1 < b.1

theorem ascending_nil : Ascending ([] : Keyed α) := List.Pairwise.nil

/-- The keys of what an entry was set in are its own and those that were there. -/
theorem mem_insert {entry : String × α} (mem : entry ∈ insert key value entries) :
    entry = (key, value) ∨ entry ∈ entries := by
  induction entries with
  | nil => exact .inl (List.mem_singleton.mp mem)
  | cons first rest ih =>
    obtain ⟨k, v⟩ := first
    simp only [insert] at mem
    split at mem
    · exact List.mem_cons.mp mem
    · split at mem
      · rcases List.mem_cons.mp mem with here | later
        · exact .inl here
        · exact .inr (List.mem_cons_of_mem _ later)
      · rcases List.mem_cons.mp mem with rfl | later
        · exact .inr List.mem_cons_self
        · exact (ih later).imp_right (List.mem_cons_of_mem _)

/-- The order is kept when an entry is set. -/
theorem Ascending.insert (ascending : Ascending entries) :
    Ascending (insert key value entries) := by
  induction entries with
  | nil => exact List.pairwise_singleton _ _
  | cons first rest ih =>
    obtain ⟨k, v⟩ := first
    obtain ⟨below, later⟩ := List.pairwise_cons.mp ascending
    simp only [Keyed.insert]
    split
    · rename_i smaller
      refine List.pairwise_cons.mpr ⟨fun entry mem => ?_, ascending⟩
      rcases List.mem_cons.mp mem with rfl | mem
      · exact smaller
      · exact smaller.trans (below entry mem)
    · rename_i notSmaller
      split
      · rename_i same
        subst same
        exact List.pairwise_cons.mpr ⟨below, later⟩
      · rename_i other
        refine List.pairwise_cons.mpr ⟨fun entry mem => ?_, ih later⟩
        rcases mem_insert mem with rfl | mem
        · exact lt_of_le_of_ne (not_lt.mp notSmaller) (Ne.symm other)
        · exact below entry mem

/-- What is made of a list of entries is in ascending order. -/
theorem ascending_ofList (entries : List (String × α)) : Ascending (ofList entries) := by
  have fold (rest : List (String × α)) : ∀ start : Keyed α, Ascending start →
      Ascending (rest.foldl (fun fields entry => Keyed.insert entry.1 entry.2 fields) start) := by
    induction rest with
    | nil => exact fun _ ascending => ascending
    | cons entry rest ih => exact fun _ ascending => ih _ ascending.insert
  exact fold entries [] ascending_nil

/-- An entry whose key is above all others is set at the end. -/
theorem insert_of_above (above : ∀ entry ∈ entries, entry.1 < key) :
    insert key value entries = entries ++ [(key, value)] := by
  induction entries with
  | nil => rfl
  | cons first rest ih =>
    obtain ⟨k, v⟩ := first
    have first : k < key := above _ List.mem_cons_self
    rw [insert, if_neg (not_lt_of_gt first), if_neg (ne_of_gt first),
      ih fun entry mem => above entry (List.mem_cons_of_mem _ mem)]
    rfl

/-- Entries in ascending order stay as they are. -/
theorem Ascending.ofList_eq (ascending : Ascending entries) : ofList entries = entries := by
  have fold (rest : List (String × α)) : ∀ start : Keyed α, Ascending (start ++ rest) →
      rest.foldl (fun fields entry => Keyed.insert entry.1 entry.2 fields) start
        = start ++ rest := by
    induction rest with
    | nil => exact fun start _ => (List.append_nil start).symm
    | cons entry rest ih =>
      intro start ascending
      obtain ⟨k, v⟩ := entry
      have above : ∀ e ∈ start, e.1 < k := fun e mem =>
        (List.pairwise_append.mp ascending).2.2 e mem (k, v) List.mem_cons_self
      have whole : start ++ (k, v) :: rest = start ++ [(k, v)] ++ rest :=
        List.append_cons start (k, v) rest
      show rest.foldl _ (Keyed.insert k v start) = _
      rw [insert_of_above above, whole]
      exact ih _ (whole ▸ ascending)
  exact fold entries [] ascending

/-- What is looked up in two lists of entries is looked up in one after the other. -/
theorem find?_append {others : Keyed α} :
    find? key (entries ++ others) = (find? key entries).or (find? key others) := by
  induction entries with
  | nil => rfl
  | cons entry rest ih =>
    obtain ⟨k, v⟩ := entry
    by_cases same : k = key
    · simp [find?, same]
    · simpa [find?, same] using ih

/-! ## The entries that count -/

theorem find?_map {β : Type} (f : α → β) :
    find? key (entries.map fun entry => (entry.1, f entry.2)) = (find? key entries).map f := by
  induction entries with
  | nil => rfl
  | cons entry rest ih =>
    by_cases same : entry.1 = key
    · simp [find?, same]
    · simpa [find?, same] using ih

theorem mem_of_find? (found : find? key entries = some value) : (key, value) ∈ entries := by
  induction entries with
  | nil => cases found
  | cons entry rest ih =>
    by_cases same : entry.1 = key
    · simp only [find?, same, if_true, Option.some.injEq] at found
      subst same found
      exact List.mem_cons_self
    · simp only [find?, same, if_false] at found
      exact List.mem_cons_of_mem _ (ih found)

theorem find?_of_mem (distinct : (entries.map Prod.fst).Nodup) (mem : (key, value) ∈ entries) :
    find? key entries = some value := by
  induction entries with
  | nil => cases mem
  | cons entry rest ih =>
    obtain ⟨notLater, distinct⟩ := List.nodup_cons.mp distinct
    rcases List.mem_cons.mp mem with rfl | later
    · simp [find?]
    · have other : entry.1 ≠ key := fun same => notLater (same ▸ List.mem_map_of_mem later)
      simpa [find?, other] using ih distinct later

theorem Ascending.nodup (ascending : Ascending entries) : (entries.map Prod.fst).Nodup :=
  List.pairwise_map.mpr (ascending.imp fun below => ne_of_lt below)

/-- Entries are in order if their keys are among keys that are. -/
theorem Ascending.of_keys {keys : List String} (order : keys.Pairwise (· < ·))
    (named : (entries.map Prod.fst).Sublist keys) : Ascending entries :=
  List.pairwise_map.mp (order.sublist named)

/-- The order is that of the keys alone. -/
theorem Ascending.map {β : Type} (f : α → β) (ascending : Ascending entries) :
    Ascending (entries.map fun entry => (entry.1, f entry.2)) :=
  List.pairwise_map.mpr ascending

theorem Ascending.mem_iff (ascending : Ascending entries) :
    (key, value) ∈ entries ↔ find? key entries = some value :=
  ⟨find?_of_mem ascending.nodup, mem_of_find?⟩

/-- Maps with the same look-ups are the same. -/
theorem Ascending.ext {others : Keyed α} (ascending : Ascending entries)
    (ascending' : Ascending others) (same : ∀ key, find? key entries = find? key others) :
    entries = others := by
  have : Std.Irrefl fun a b : String × α => a.1 < b.1 := ⟨fun a => lt_irrefl a.1⟩
  have : Std.Antisymm fun a b : String × α => a.1 < b.1 :=
    ⟨fun _ _ below above => absurd below (lt_asymm above)⟩
  refine List.Pairwise.eq_of_mem_iff ascending ascending' fun ⟨key, value⟩ => ?_
  rw [ascending.mem_iff, ascending'.mem_iff, same]

/-- The last value that a list of entries has for a key, which is the one that counts. -/
def last? (key : String) (entries : List (String × α)) : Option α := find? key entries.reverse

theorem last?_concat (k : String) (v : α) :
    last? key (entries ++ [(k, v)]) = if k = key then some v else last? key entries := by
  rw [last?, List.reverse_concat]
  rfl

theorem last?_map {β : Type} (f : α → β) :
    last? key (entries.map fun entry => (entry.1, f entry.2)) = (last? key entries).map f := by
  rw [last?, ← List.map_reverse, find?_map]
  rfl

theorem mem_of_last? (found : last? key entries = some value) : (key, value) ∈ entries :=
  List.mem_reverse.mp (mem_of_find? found)

/-- The last entry of each key is looked up in the map that is made of a list. -/
theorem find?_ofList (key : String) (entries : List (String × α)) :
    find? key (ofList entries) = last? key entries := by
  induction entries using List.reverseRecOn with
  | nil => rfl
  | append_singleton entries entry ih =>
    obtain ⟨k, v⟩ := entry
    have set : ofList (entries ++ [(k, v)]) = insert k v (ofList entries) := List.foldl_concat ..
    rw [set, last?_concat]
    split
    · subst k
      exact find?_insert_self _ _ _
    · rename_i other
      rw [find?_insert_of_ne _ _ other, ih]

/-- Lists of entries make one map if and only if the last entry of every key is the same. -/
theorem ofList_eq_iff {others : List (String × α)} :
    ofList entries = ofList others ↔ ∀ key, last? key entries = last? key others := by
  constructor
  · intro same key
    rw [← find?_ofList, same, find?_ofList]
  · intro same
    refine (ascending_ofList entries).ext (ascending_ofList others) fun key => ?_
    rw [find?_ofList, find?_ofList, same]

/-- The same of the maps in which each value is replaced by what `f` makes of it. -/
theorem map_ofList_eq_iff {β : Type} {f : α → β} {others : List (String × α)} :
    (ofList entries).map (fun entry => (entry.1, f entry.2))
        = (ofList others).map (fun entry => (entry.1, f entry.2))
      ↔ ∀ key, (last? key entries).map f = (last? key others).map f := by
  constructor
  · intro same key
    rw [← find?_ofList, ← find?_map, same, find?_map, find?_ofList]
  · intro same
    refine ((ascending_ofList entries).map f).ext ((ascending_ofList others).map f) fun key => ?_
    rw [find?_map, find?_map, find?_ofList, find?_ofList, same]

/-- Where entries are made of items, the last item of a name counts. -/
theorem last?_entries {β : Type} (name : β → String) (value : β → α) (items : List β) :
    last? key (items.map fun x => (name x, value x))
      = (items.reverse.find? fun x => name x = key).map value := by
  rw [last?, ← List.map_reverse]
  induction items.reverse with
  | nil => rfl
  | cons x rest ih =>
    by_cases same : name x = key
    · simp [find?, same]
    · simpa [find?, same] using ih

/-- Where no name occurs twice, every item is the last of its name. -/
theorem find?_reverse_of_distinct {β : Type} {name : β → String} {items : List β} {a : β}
    (distinct : (items.map name).Nodup) (mem : a ∈ items) :
    items.reverse.find? (fun x => name x = name a) = some a := by
  have some : (items.reverse.find? fun x => name x = name a).isSome = true :=
    List.find?_isSome.mpr ⟨a, List.mem_reverse.mpr mem, decide_eq_true rfl⟩
  obtain ⟨b, found⟩ := Option.isSome_iff_exists.mp some
  have named : name b = name a := by simpa using List.find?_some found
  have there : b ∈ items := List.mem_reverse.mp (List.mem_of_find?_eq_some found)
  rw [found, List.inj_on_of_nodup_map distinct there mem named]

/-- The order of a list in which no key occurs twice makes no difference. -/
theorem ofList_perm {others : List (String × α)} (perm : entries.Perm others)
    (distinct : (entries.map Prod.fst).Nodup) : ofList entries = ofList others := by
  have reversed : entries.reverse.Perm others.reverse :=
    (List.reverse_perm entries).trans (perm.trans (List.reverse_perm others).symm)
  have distinct : (entries.reverse.map Prod.fst).Nodup :=
    (((List.reverse_perm entries).map Prod.fst).nodup_iff).mpr distinct
  have distinct' : (others.reverse.map Prod.fst).Nodup :=
    ((reversed.map Prod.fst).nodup_iff).mp distinct
  refine ofList_eq_iff.mpr fun key => Option.ext fun value => ?_
  exact ⟨fun found => find?_of_mem distinct' (reversed.mem_iff.mp (mem_of_find? found)),
    fun found => find?_of_mem distinct (reversed.mem_iff.mpr (mem_of_find? found))⟩

/-- The same where entries are made of items. -/
theorem ofList_entries_perm {β : Type} {name : β → String} {value : β → α} {items others : List β}
    (perm : items.Perm others) (distinct : (items.map name).Nodup) :
    ofList (items.map fun x => (name x, value x))
      = ofList (others.map fun x => (name x, value x)) := by
  refine ofList_perm (perm.map _) ?_
  rw [List.map_map]
  exact distinct

end VmDeploy.Keyed
