import VmDeploy.Json.Record
import VmDeploy.Proofs.Result

/-!
# What records that were read hold

A reader ensures a property if everything it reads has it (`Reader.Ensures`); what is left of the
text does not matter. A record that is read straight from text, by its keys or in order, ensures
that every field is set that it requires, and keeps whatever the reading of each field keeps
(`Reader.ensures_record`).
-/

set_option autoImplicit false

namespace VmDeploy.Json.Reader

section Readers

variable {α β : Type} {P Q : α → Prop}

/-- Whatever a reader reads has a property. -/
def Ensures (reader : Reader α) (P : α → Prop) : Prop :=
  ∀ text a rest, reader text = .ok (a, rest) → P a

theorem Ensures.mono {reader : Reader α} (ensures : reader.Ensures P) (weaker : ∀ a, P a → Q a) :
    reader.Ensures Q :=
  fun text a rest read => weaker a (ensures text a rest read)

theorem ensures_true (reader : Reader α) : reader.Ensures fun _ => True :=
  fun _ _ _ _ => trivial

theorem ensures_pure {a : α} (holds : P a) : Ensures (pure a) P := by
  intro _ _ _ read
  cases read
  exact holds

/-- A reader that ends with a fault reads nothing. -/
theorem ensures_throw {fault : Fault} : Ensures (throw fault) P := by
  intro _ _ _ read
  cases read

theorem ensures_bind {reader : Reader α} {next : α → Reader β} {R : β → Prop}
    (first : reader.Ensures P) (second : ∀ a, P a → (next a).Ensures R) :
    (reader >>= next).Ensures R := by
  intro text b rest read
  change (reader text >>= fun (a, left) => next a left) = .ok (b, rest) at read
  cases here : reader text with
  | error fault =>
    rw [here] at read
    cases read
  | ok taken =>
    rw [here] at read
    exact second taken.1 (first text _ _ here) taken.2 b rest read

/-- What comes before does not matter for what is ensured whatever it was. -/
theorem ensures_then {reader : Reader α} {next : α → Reader β} {R : β → Prop}
    (each : ∀ a, (next a).Ensures R) : (reader >>= next).Ensures R :=
  ensures_bind (ensures_true reader) fun a _ => each a

theorem Ensures.and {reader : Reader α} (one : reader.Ensures P) (other : reader.Ensures Q) :
    reader.Ensures fun a => P a ∧ Q a :=
  fun text a rest read => ⟨one text a rest read, other text a rest read⟩

/-- What is read from the front of a whole text is ensured whatever follows. -/
theorem Ensures.of_run {reader : Reader α} (ensures : reader.Ensures P) {text : List UInt8} {a : α}
    (read : reader.run text = .ok a) : P a := by
  have whole : Ensures (do let x ← reader; atEnd; return x) P :=
    ensures_bind ensures fun x holds => ensures_then fun _ => ensures_pure holds
  obtain ⟨⟨_, rest⟩, all, rfl⟩ := Result.map_eq_ok.mp read
  exact whole text _ rest all

/-- What is read beside the word for none is ensured where it was read. -/
theorem ensures_orNull {reader : Reader α} (ensures : reader.Ensures P) :
    (orNull reader).Ensures fun a? => ∀ a, a? = some a → P a := by
  refine ensures_then fun c => ?_
  split
  · exact ensures_then fun _ => ensures_then fun _ => ensures_pure nofun
  · refine ensures_bind ensures fun a holds => ensures_pure ?_
    rintro _ ⟨⟩
    exact holds

end Readers

/-! ## Records -/

section Records

variable {σ : Type} {slots : List (Slot σ)} {P : σ → Prop}

/-- How the fields of a record are gathered: reading a field sets it, leaves the other fields set,
and keeps a property of what was gathered. -/
structure Gathers (slots : List (Slot σ)) (P : σ → Prop) : Prop where
  sets : ∀ slot ∈ slots, ∀ levels g, (slot.read levels g).Ensures (slot.isSet · = true)
  leaves : ∀ slot ∈ slots, ∀ other ∈ slots, ∀ levels g, other.isSet g = true →
    (slot.read levels g).Ensures (other.isSet · = true)
  keeps : ∀ slot ∈ slots, ∀ levels g, P g → (slot.read levels g).Ensures P

/-- Reading an object keeps what every field keeps, and checks what is required at its end. -/
theorem ensures_slotsByKey
    (keeps : ∀ slot ∈ slots, ∀ levels g, P g → (slot.read levels g).Ensures P)
    {levels fuel : Nat} {first : Bool} {g : σ} (holds : P g) :
    (slotsByKey slots levels fuel first g).Ensures fun g' =>
      P g' ∧ ∀ slot ∈ slots, slot.required = true → slot.isSet g' = true := by
  induction fuel generalizing first g with
  | zero => exact ensures_throw
  | succ fuel ih =>
    refine ensures_then fun more => ?_
    cases more with
    | false =>
      simp only [Bool.false_eq_true, if_false]
      split
      · exact ensures_throw
      · rename_i complete
        refine ensures_pure ⟨holds, fun slot mem required => ?_⟩
        have found := List.find?_eq_none.mp complete slot mem
        simpa [required] using found
    | true =>
      refine ensures_then fun _ => ensures_then fun name => ?_
      split
      · exact ensures_then fun _ => ensures_then fun _ => ih holds
      · rename_i slot found
        split
        · exact ensures_throw
        · refine ensures_then fun _ => ensures_bind ?_ fun g' kept => ih kept
          exact keeps slot (List.mem_of_find?_eq_some found) levels g holds

/-- Reading a list keeps what every field keeps. -/
theorem ensures_slotsInOrder_of_keeps (expected : String) (levels index : Nat) {g : σ}
    (keeps : ∀ slot ∈ slots, ∀ levels g, P g → (slot.read levels g).Ensures P) (holds : P g) :
    (slotsInOrder expected levels slots index g).Ensures P := by
  induction slots generalizing index g with
  | nil => exact ensures_pure holds
  | cons slot rest ih =>
    have later := fun other mem => keeps other (List.mem_cons_of_mem slot mem)
    refine ensures_then fun more => ?_
    cases more with
    | true => exact ensures_bind (keeps slot List.mem_cons_self levels g holds) fun g' => ih _ later
    | false =>
      simp only [Bool.false_eq_true, if_false]
      split
      · exact ensures_throw
      · exact ih _ later holds

/-- Reading a list sets what is required: a field that is read stays set, and only those that are
not required are left out. -/
theorem ensures_slotsInOrder (gathers : Gathers slots P) {expected : String} {levels index : Nat}
    {g : σ} :
    (slotsInOrder expected levels slots index g).Ensures fun g' =>
      ∀ slot ∈ slots, slot.required = true → slot.isSet g' = true := by
  induction slots generalizing index g with
  | nil => exact ensures_pure nofun
  | cons slot rest ih =>
    have later : Gathers rest P :=
      { sets := fun other mem => gathers.sets other (List.mem_cons_of_mem slot mem)
        leaves := fun other mem another mem' => gathers.leaves other (List.mem_cons_of_mem slot mem)
          another (List.mem_cons_of_mem slot mem')
        keeps := fun other mem => gathers.keeps other (List.mem_cons_of_mem slot mem) }
    refine ensures_then fun more => ?_
    cases more with
    | true =>
      refine ensures_bind (gathers.sets slot List.mem_cons_self levels g) fun g' wasSet => ?_
      -- The rest of the list is read with this field set, which is a property that it keeps.
      have stays := ensures_slotsInOrder_of_keeps (P := (slot.isSet · = true)) expected levels
        (index + 1) (fun other mem => gathers.leaves other (List.mem_cons_of_mem slot mem) slot
          List.mem_cons_self) wasSet
      refine (stays.and (ih later)).mono ?_
      rintro g'' ⟨here, there⟩ other mem required
      rcases List.mem_cons.mp mem with rfl | mem
      · exact here
      · exact there other mem required
    | false =>
      simp only [Bool.false_eq_true, if_false]
      split
      · exact ensures_throw
      · rename_i optional
        refine (ih later).mono fun g' there other mem required => ?_
        rcases List.mem_cons.mp mem with rfl | mem
        · exact absurd required optional
        · exact there other mem required

/-- A record that was read has every field that it requires, and what its fields keep. -/
theorem ensures_record (gathers : Gathers slots P) {start : σ} (starts : P start) {name : String}
    {levels : Nat} :
    (record name slots start levels).Ensures fun g =>
      P g ∧ ∀ slot ∈ slots, slot.required = true → slot.isSet g = true := by
  refine ensures_then fun scalar => ?_
  split
  · exact ensures_throw
  · split
    · exact ensures_throw
    · refine ensures_then fun text => ensures_then fun opening => ?_
      split
      · refine ensures_bind ?_ fun g holds => ensures_then fun _ => ensures_pure holds
        exact (ensures_slotsInOrder_of_keeps _ _ _ gathers.keeps starts).and
          (ensures_slotsInOrder gathers)
      · refine ensures_bind ?_ fun g holds => ensures_then fun _ => ensures_pure holds
        exact ensures_slotsByKey gathers.keeps starts

end Records

end VmDeploy.Json.Reader
