import VmDeploy.Proofs.Json.Records

/-!
# Forms in which values are exchanged

A type is exchanged in a form if what is written is read back, and if every value that can be read,
however it is spelled, is written in one way from then on (`Faithful`).

Two things are shown of a form, each along the way in which its decoder is built. What is written is
read (`Fields.Reads` and the laws under its name). And all that can be read is as values of the type
are kept, with the entries of maps in ascending order (`Decoder.Yields`, `Fields.Yields`).
-/

set_option autoImplicit false

namespace VmDeploy.Json

/-! ## What can be read at all -/

/-- All that a decoder reads, whatever it is given, has a property. -/
def Decoder.Yields {α : Type} (decode : Decoder α) (P : α → Prop) : Prop :=
  ∀ v a, decode v = .ok a → P a

/-- All that fields read, from an object or a list, has a property. -/
structure Fields.Yields {α : Type} (fields : Fields α) (P : α → Prop) : Prop where
  object : ∀ entries a, fields.Reads entries a → P a
  list : ∀ expected place items a rest, fields.Takes expected place items a rest → P a

namespace Fields

variable {α β : Type} {f : Fields (α → β)} {x : Fields α} {P : β → Prop} {Q : α → Prop}
  {name : String} {decode : Decoder α} {absent : α} {entries : Keyed Json} {a : α} {v : Json}

/-- Fields of which nothing need be known. -/
theorem yields_any : x.Yields fun _ => True := ⟨fun _ _ _ => trivial, fun _ _ _ _ _ _ => trivial⟩

/-- The last part of a record, and the parts before it for whatever the last may be. -/
theorem Yields.seq (first : f.Yields fun g => ∀ a, Q a → P (g a)) (second : x.Yields Q) :
    (f <*> x).Yields P where
  object entries b reads := by
    obtain ⟨g, a, readsFirst, readsSecond, rfl⟩ := reads_seq_iff.mp reads
    exact first.object entries g readsFirst a (second.object entries a readsSecond)
  list expected place items b rest takes := by
    obtain ⟨g, middle, a, takesFirst, takesSecond, rfl⟩ := takes_seq_iff.mp takes
    exact first.list _ _ _ g middle takesFirst a (second.list _ _ _ a rest takesSecond)

theorem Yields.map {g : α → β} (inner : x.Yields Q) (made : ∀ a, Q a → P (g a)) :
    (g <$> x).Yields P where
  object entries b reads := by
    obtain ⟨a, inside, rfl⟩ := reads_map_iff.mp reads
    exact made a (inner.object entries a inside)
  list expected place items b rest takes := by
    obtain ⟨a, inside, rfl⟩ := takes_map_iff.mp takes
    exact made a (inner.list _ _ _ a rest inside)

theorem Yields.required (inner : decode.Yields Q) : (required name decode).Yields Q where
  object entries a reads := by
    obtain ⟨v, -, read⟩ := reads_required_iff.mp reads
    exact inner v a read
  list expected place items a rest takes := by
    obtain ⟨v, -, read⟩ := takes_required_iff.mp takes
    exact inner v a read

theorem Yields.optional (inner : decode.Yields Q) (default : Q absent) :
    (optional name decode absent).Yields Q where
  object entries a reads := by
    rcases reads_optional_iff.mp reads with ⟨v, -, read⟩ | ⟨-, rfl⟩
    · exact inner v a read
    · exact default
  list expected place items a rest takes := by
    rcases takes_optional_iff.mp takes with ⟨v, -, read⟩ | ⟨-, -, rfl⟩
    · exact inner v a read
    · exact default

/-! ## What is written is read -/

theorem Reads.seq {g : α → β} (first : f.Reads entries g) (second : x.Reads entries a) :
    (f <*> x).Reads entries (g a) :=
  reads_seq_iff.mpr ⟨g, a, first, second, rfl⟩

theorem Reads.map (g : α → β) (inner : x.Reads entries a) : (g <$> x).Reads entries (g a) :=
  reads_map_iff.mpr ⟨a, inner, rfl⟩

theorem Reads.required (read : decode v = .ok a) (found : Keyed.find? name entries = some v) :
    (required name decode).Reads entries a :=
  reads_required_iff.mpr ⟨v, found, read⟩

theorem Reads.optional (read : decode v = .ok a) (found : Keyed.find? name entries = some v) :
    (optional name decode absent).Reads entries a :=
  reads_optional_iff.mpr (.inl ⟨v, found, read⟩)

theorem Reads.missing (missing : Keyed.find? name entries = Option.none) :
    (Fields.optional name decode absent).Reads entries absent :=
  reads_optional_iff.mpr (.inr ⟨missing, rfl⟩)

end Fields

namespace Decoder

variable {α β : Type} {decode : Decoder α} {encode : α → Json} {P : α → Prop}

theorem Yields.record {fields : Fields α} {name : String} (inner : fields.Yields P) :
    (record name fields).Yields P := by
  intro v a read
  rcases record_eq_ok_iff.mp read with ⟨entries, rfl, reads⟩ | ⟨items, rfl, takes⟩
  · exact inner.object entries a reads
  · exact inner.list _ _ _ a [] takes

/-- The items of a list are what its decoder reads. -/
theorem Yields.list (inner : decode.Yields P) : (list decode).Yields fun xs => ∀ x ∈ xs, P x := by
  intro v xs read x mem
  cases v with
  | array items =>
    obtain ⟨item, -, here⟩ := Result.mem_of_mapM_eq_ok read mem
    exact inner item x here
  | _ => cases read

/-- The entries of a map are in ascending order, however they were spelled. -/
theorem yields_keyed : (keyed decode).Yields Keyed.Ascending := by
  intro v entries read
  cases v with
  | object fields =>
    obtain ⟨decoded, -, last⟩ := Result.bind_eq_ok.mp read
    cases last
    exact Keyed.ascending_ofList decoded
  | _ => cases read

/-! ## Parts of forms -/

/-- A list is read back if its items are. -/
theorem list_ofList {xs : List α} (each : ∀ x ∈ xs, decode (encode x) = .ok x) :
    list decode (.ofList encode xs) = .ok xs := by
  show (xs.map encode).mapM decode = .ok xs
  induction xs with
  | nil => rfl
  | cons x rest ih =>
    rw [List.map_cons, List.mapM_cons, each x List.mem_cons_self,
      ih fun y mem => each y (List.mem_cons_of_mem x mem)]
    rfl

/-- A map in ascending order is read back if its values are. -/
theorem keyed_object {entries : Keyed α} (ascending : entries.Ascending)
    (each : ∀ x, decode (encode x) = .ok x) :
    keyed decode (.object (entries.map fun entry => (entry.1, encode entry.2))) = .ok entries := by
  have read : (entries.map fun entry => (entry.1, encode entry.2)).mapM
      (fun entry => decode entry.2 >>= fun x => .ok (entry.1, x)) = .ok entries := by
    induction entries with
    | nil => rfl
    | cons entry rest ih =>
      rw [List.map_cons, List.mapM_cons, ih (List.pairwise_cons.mp ascending).2, each entry.2]
      rfl
  refine Result.bind_eq_ok.mpr ⟨entries, read, ?_⟩
  exact congrArg Except.ok ascending.ofList_eq

/-- A map of values in ascending order is read as it is. -/
theorem keyed_any {entries : Keyed Json} (ascending : entries.Ascending) :
    keyed any (.object entries) = .ok entries := by
  have same : (entries.map fun entry => (entry.1, id entry.2)) = entries := List.map_id _
  have read : keyed any (.object (entries.map fun entry => (entry.1, id entry.2))) = .ok entries :=
    keyed_object ascending fun _ => rfl
  rwa [same] at read

/-- A number below the bound is read back. -/
theorem natBelow_ofNat {bound n : Nat} (below : n < bound) (noun : String) :
    natBelow bound noun (.ofNat n) = .ok n := by
  have inside : (0 : Int) ≤ n ∧ (n : Int) < bound := ⟨Int.natCast_nonneg n, Int.ofNat_lt.mpr below⟩
  simp only [natBelow, Json.ofNat, if_pos inside, Int.toNat_natCast]

theorem uint16_ofNat (n : UInt16) : uint16 (.ofNat n.toNat) = .ok n := by
  rw [uint16, natBelow_ofNat n.toNat_lt]
  exact congrArg Except.ok n.ofNat_toNat

theorem uint32_ofNat (n : UInt32) : uint32 (.ofNat n.toNat) = .ok n := by
  rw [uint32, natBelow_ofNat n.toNat_lt]
  exact congrArg Except.ok n.ofNat_toNat

theorem uint64_ofNat (n : UInt64) : uint64 (.ofNat n.toNat) = .ok n := by
  rw [uint64, natBelow_ofNat n.toNat_lt]
  exact congrArg Except.ok n.ofNat_toNat

/-- A text that its own reader takes is read so. -/
theorem reading_string {ε : Type} {message : ε → String} {read : String → Except ε α} {s : String}
    {a : α} (taken : read s = .ok a) : reading message read (.string s) = .ok a := by
  simp only [reading, string, bind, Except.bind, taken]
  rfl

/-- What may be none is read back, none as null. -/
theorem orNull_string (s : Option String) :
    orNull string ((s.map Json.string).getD .null) = .ok s := by
  cases s <;> rfl

end Decoder

/-! ## Forms -/

/-- A form of the values of a type that are kept as `Kept` says. `Assumed` is what has to be known
of a value where the reading of its parts is not looked into. -/
structure Faithful {α : Type} (Kept Assumed : α → Prop) (encode : α → Json)
    (decode : Decoder α) : Prop where
  /-- What is written is read back. -/
  lossless : ∀ x, Kept x → Assumed x → decode (encode x) = .ok x
  /-- What is read is kept so, whatever it was read from, and is written in a way that is read as
  the same and written alike. -/
  normalising : ∀ v x, decode v = .ok x → Kept x ∧ (Assumed x →
    ∃ y, decode (encode x) = .ok y ∧ y = x ∧ encode y = encode x)

/-- A form is faithful if what is kept in the right way is read back, and nothing else is read. -/
theorem Faithful.of_yields {α : Type} {Kept Assumed : α → Prop} {encode : α → Json}
    {decode : Decoder α} (lossless : ∀ x, Kept x → Assumed x → decode (encode x) = .ok x)
    (yields : decode.Yields Kept) : Faithful Kept Assumed encode decode where
  lossless := lossless
  normalising v x read :=
    ⟨yields v x read, fun assumed => ⟨x, lossless x (yields v x read) assumed, rfl, rfl⟩⟩

end VmDeploy.Json
