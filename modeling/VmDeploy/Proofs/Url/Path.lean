import Mathlib.Data.List.Induction
import VmDeploy.Agent.Endpoint
import VmDeploy.Proofs.Url.Encoding

/-!
# Paths are read as they are written

What is read as a path consists of segments that no reading changes any more (`IsSegment`): their
characters may stand in a path, and none of them is one dot or two. So a path that was read is read
as itself (`absolutePath_pathText`), also when slashes at its end were taken away and a segment was
put behind it.
-/

set_option autoImplicit false

namespace VmDeploy.Url

/-- A character that a segment can hold. -/
def isSegmentChar (c : Char) : Bool :=
  0x20 < c.toNat && c.toNat < 0x7f && !pathSet.contains c && !isSlash true c

/-- A segment that no reading changes. -/
structure IsSegment (segment : List Char) : Prop where
  each : ∀ c ∈ segment, isSegmentChar c = true
  notDot : isDot segment = false
  notTwoDots : isTwoDots segment = false

/-- A path of segments. -/
def pathText (segments : List (List Char)) : List Char := segments.flatMap ('/' :: ·)

variable {c separator : Char} {s segment : List Char} {read parts kept : List (List Char)}

/-! ## Parts of a text -/

/-- The characters of parts are those of the text that do not separate them. -/
theorem mem_of_mem_splitAt (isPart : segment ∈ splitAt separator s) (mem : c ∈ segment) :
    c ∈ s ∧ c ≠ separator := by
  induction s generalizing segment with
  | nil => simp_all [splitAt]
  | cons d rest ih =>
    unfold splitAt at isPart
    split at isPart
    · rcases List.mem_cons.mp isPart with rfl | later
      · cases mem
      · exact (ih later mem).imp_left (List.mem_cons_of_mem d)
    · rename_i other
      split at isPart
      · cases List.mem_singleton.mp isPart
        cases List.mem_singleton.mp mem
        exact ⟨List.mem_cons_self, other⟩
      · rename_i first others split
        rcases List.mem_cons.mp isPart with rfl | later
        · rcases List.mem_cons.mp mem with rfl | inFirst
          · exact ⟨List.mem_cons_self, other⟩
          · exact (ih (split ▸ List.mem_cons_self) inFirst).imp_left (List.mem_cons_of_mem d)
        · exact (ih (split ▸ List.mem_cons_of_mem _ later) mem).imp_left (List.mem_cons_of_mem d)

theorem splitAt_ne_nil : splitAt separator s ≠ [] := by
  cases s with
  | nil => exact List.cons_ne_nil _ _
  | cons c rest =>
    unfold splitAt
    split
    · exact List.cons_ne_nil _ _
    · split <;> exact List.cons_ne_nil _ _

theorem splitAt_separator : splitAt separator (separator :: s) = [] :: splitAt separator s :=
  if_pos rfl

theorem splitAt_other {part : List Char} {others : List (List Char)} (other : c ≠ separator)
    (behind : splitAt separator s = part :: others) :
    splitAt separator (c :: s) = (c :: part) :: others := by
  rw [splitAt, if_neg other, behind]

/-- Parts are found again that have no separator in them. -/
theorem splitAt_parts {part : List Char} (apart : ∀ p ∈ part :: parts, separator ∉ p) :
    splitAt separator (part ++ parts.flatMap (separator :: ·)) = part :: parts := by
  -- Along the characters of the first part, and behind its last one along the other parts.
  induction parts generalizing part with
  | nil =>
    have first := apart part List.mem_cons_self
    clear apart
    induction part with
    | nil => rfl
    | cons c rest ih =>
      exact splitAt_other (List.ne_of_not_mem_cons first).symm
        (ih (List.not_mem_of_not_mem_cons first))
  | cons next parts ihParts =>
    obtain ⟨first, others⟩ := List.forall_mem_cons.mp apart
    clear apart
    induction part with
    | nil =>
      rw [List.nil_append, List.flatMap_cons, List.cons_append, splitAt_separator, ihParts others]
    | cons c rest ih =>
      exact splitAt_other (List.ne_of_not_mem_cons first).symm
        (ih (List.not_mem_of_not_mem_cons first))

/-! ## Segments -/

theorem isSegmentChar_percentByte (b : UInt8) : ∀ c ∈ percentByte b, isSegmentChar c = true := by
  have digit : ∀ v : Fin 16, isSegmentChar (Text.Hex.digit v).toUpper = true := by decide
  have high := digit ⟨_, Text.Hex.high_lt b⟩
  have low := digit ⟨_, Text.Hex.low_lt b⟩
  exact List.forall_mem_cons.mpr ⟨by decide, List.forall_mem_cons.mpr ⟨high,
    List.forall_mem_singleton.mpr low⟩⟩

/-- What a segment cannot hold is written by number. -/
theorem isSegmentChar_percentEncode (noSlash : ∀ c ∈ s, isSlash true c = false) :
    ∀ c ∈ percentEncode pathSet s, isSegmentChar c = true := by
  intro c mem
  obtain ⟨d, inside, mem⟩ := List.mem_flatMap.mp mem
  split at mem
  · obtain ⟨b, -, mem⟩ := List.mem_flatMap.mp mem
    exact isSegmentChar_percentByte b c mem
  · rename_i literal
    cases List.mem_singleton.mp mem
    simp only [not_or] at literal
    obtain ⟨visible, ascii, allowed⟩ := literal
    have noSpace : c.toNat ≠ 0x20 := by
      intro space
      have isSpace : c = ' ' := Char.toNat_inj.mp space
      exact allowed (isSpace ▸ by decide)
    simp only [isSegmentChar, noSlash c inside, Bool.eq_false_iff.mpr allowed, Bool.not_false,
      Bool.and_true, Bool.and_eq_true, decide_eq_true_eq]
    omega

theorem noSlash_of_segments (isPart : segment ∈ segments true s) :
    ∀ c ∈ segment, isSlash true c = false := by
  intro c mem
  obtain ⟨inside, other⟩ := mem_of_mem_splitAt isPart mem
  obtain ⟨d, -, same⟩ := List.mem_map.mp inside
  split at same
  · exact absurd same.symm other
  · rename_i noSlash
    exact same ▸ Bool.eq_false_iff.mpr noSlash

theorem isSegment_nil : IsSegment [] := ⟨nofun, rfl, rfl⟩

theorem forall_mem_reverse (each : ∀ segment ∈ read, IsSegment segment) :
    ∀ segment ∈ read.reverse, IsSegment segment :=
  fun segment mem => each segment (List.mem_reverse.mp mem)

theorem isSegment_of_goUp (before : ∀ segment ∈ read, IsSegment segment) :
    ∀ segment ∈ goUp read, IsSegment segment := by
  cases read with
  | nil => exact nofun
  | cons last read =>
    rw [goUp]
    split
    · exact before
    · exact (List.forall_mem_cons.mp before).2

/-- Of segments only those are left that are no dots. -/
theorem isSegment_of_resolve (before : ∀ segment ∈ read, IsSegment segment)
    (each : ∀ segment ∈ parts, ∀ c ∈ segment, isSegmentChar c = true) :
    ∀ segment ∈ resolve read parts, IsSegment segment := by
  fun_induction resolve read parts with
  | case1 read => exact forall_mem_reverse before
  | case2 read last =>
    exact forall_mem_reverse (List.forall_mem_cons.mpr ⟨isSegment_nil, isSegment_of_goUp before⟩)
  | case3 read last =>
    exact forall_mem_reverse (List.forall_mem_cons.mpr ⟨isSegment_nil, before⟩)
  | case4 read last noTwoDots noDot =>
    have here : IsSegment last := ⟨each last List.mem_cons_self, Bool.eq_false_iff.mpr noDot,
      Bool.eq_false_iff.mpr noTwoDots⟩
    exact forall_mem_reverse (List.forall_mem_cons.mpr ⟨here, before⟩)
  | case5 read segment rest _ _ ih =>
    exact ih (isSegment_of_goUp before) (List.forall_mem_cons.mp each).2
  | case6 read segment rest _ _ _ ih => exact ih before (List.forall_mem_cons.mp each).2
  | case7 read segment rest _ noTwoDots noDot ih =>
    obtain ⟨first, others⟩ := List.forall_mem_cons.mp each
    have here : IsSegment segment := ⟨first, Bool.eq_false_iff.mpr noDot,
      Bool.eq_false_iff.mpr noTwoDots⟩
    exact ih (List.forall_mem_cons.mpr ⟨here, before⟩) others

theorem resolve_ne_nil (some : parts ≠ []) : resolve read parts ≠ [] := by
  fun_induction resolve read parts with
  | case1 => exact absurd rfl some
  | case2 | case3 | case4 => simp
  | case5 read segment rest more _ ih | case6 read segment rest more _ _ ih
  | case7 read segment rest more _ _ ih => exact ih more

/-- Segments without dots are kept. -/
theorem resolve_eq_self (each : ∀ segment ∈ parts, IsSegment segment) :
    resolve read parts = read.reverse ++ parts := by
  fun_induction resolve read parts with
  | case1 read => simp
  | case2 read last dots =>
    cases (each last List.mem_cons_self).notTwoDots.symm.trans dots
  | case3 read last _ dot =>
    cases (each last List.mem_cons_self).notDot.symm.trans dot
  | case4 read last => simp
  | case5 read segment rest _ dots =>
    cases (each segment List.mem_cons_self).notTwoDots.symm.trans dots
  | case6 read segment rest _ _ dot =>
    cases (each segment List.mem_cons_self).notDot.symm.trans dot
  | case7 read segment rest _ _ _ ih =>
    rw [ih (List.forall_mem_cons.mp each).2]
    simp

/-! ## Paths -/

theorem absolutePath_eq (s : List Char) :
    ∃ parts, parts ≠ [] ∧ (∀ segment ∈ parts, IsSegment segment) ∧
      absolutePath true s = pathText parts := by
  unfold absolutePath
  refine ⟨_, resolve_ne_nil ?_, isSegment_of_resolve (List.forall_mem_nil _) ?_, rfl⟩
  · rw [ne_eq, List.map_eq_nil_iff]
    exact splitAt_ne_nil
  · refine List.forall_mem_map.mpr fun segment isPart => ?_
    exact isSegmentChar_percentEncode (noSlash_of_segments isPart)

namespace IsSegment

variable (isSegment : IsSegment segment)

include isSegment

theorem noSlash : ∀ c ∈ segment, isSlash true c = false := by
  intro c mem
  have here := isSegment.each c mem
  simp only [isSegmentChar, Bool.and_eq_true, Bool.not_eq_true'] at here
  exact here.2

theorem apart : '/' ∉ segment := fun mem => nomatch (isSegment.noSlash '/' mem)

theorem percentEncode : Url.percentEncode pathSet segment = segment := by
  refine percentEncode_eq_self fun c mem => ?_
  have here := isSegment.each c mem
  simp only [isSegmentChar, Bool.and_eq_true, Bool.not_eq_true', decide_eq_true_eq] at here
  exact ⟨Nat.le_of_lt here.1.1.1, here.1.1.2, here.1.2⟩

end IsSegment

/-- The slashes of a path are the ones between its segments. -/
theorem segments_pathText {first : List Char} (each : ∀ p ∈ first :: parts, IsSegment p) :
    segments true (first ++ pathText parts) = first :: parts := by
  have plain : (first ++ pathText parts).map (fun c => if isSlash true c then '/' else c)
      = first ++ pathText parts := by
    refine (List.map_congr_left fun c mem => ?_).trans (List.map_id _)
    have slash : isSlash true c = true → '/' = c := by
      intro isSlash
      have inside {p : List Char} (isPart : p ∈ first :: parts) (mem : c ∈ p) : '/' = c := by
        cases isSlash.symm.trans ((each p isPart).noSlash c mem)
      rcases List.mem_append.mp mem with mem | mem
      · exact inside List.mem_cons_self mem
      · obtain ⟨p, isPart, mem⟩ := List.mem_flatMap.mp mem
        rcases List.mem_cons.mp mem with rfl | mem
        · rfl
        · exact inside (List.mem_cons_of_mem _ isPart) mem
    split
    · exact slash (by assumption)
    · rfl
  rw [segments, plain]
  exact splitAt_parts fun p mem => (each p mem).apart

/-- A path is read as it is written. -/
theorem absolutePath_pathText (some : parts ≠ []) (each : ∀ segment ∈ parts, IsSegment segment) :
    absolutePath true (pathText parts) = pathText parts := by
  obtain ⟨first, rest, rfl⟩ := List.exists_cons_of_ne_nil some
  have kept : (first :: rest).map (percentEncode pathSet) = first :: rest :=
    (List.map_congr_left fun p mem => (each p mem).percentEncode).trans (List.map_id _)
  show (resolve [] ((segments true (first ++ pathText rest)).map
    (percentEncode pathSet))).flatMap _ = _
  rw [segments_pathText each, kept, resolve_eq_self each]
  rfl

/-! ## Slashes at the end -/

theorem trimSlashes_slash :
    AgentEndpoint.trimSlashes (s ++ ['/']) = AgentEndpoint.trimSlashes s := by
  simp [AgentEndpoint.trimSlashes]

theorem trimSlashes_other (other : c ≠ '/') : AgentEndpoint.trimSlashes (s ++ [c]) = s ++ [c] := by
  simp [AgentEndpoint.trimSlashes, other]

/-- Without the slashes at its end a path is one of some of its segments. -/
theorem trimSlashes_pathText (each : ∀ segment ∈ parts, IsSegment segment) :
    ∃ kept, (∀ segment ∈ kept, IsSegment segment) ∧
      AgentEndpoint.trimSlashes (pathText parts) = pathText kept := by
  induction parts using List.reverseRecOn with
  | nil => exact ⟨[], List.forall_mem_nil _, rfl⟩
  | append_singleton parts last ih =>
    obtain ⟨before, isLast⟩ := List.forall_mem_append.mp each
    have text : pathText (parts ++ [last]) = pathText parts ++ '/' :: last := by simp [pathText]
    rcases List.eq_nil_or_concat last with rfl | ⟨front, c, rfl⟩
    · rw [text, trimSlashes_slash]
      exact ih before
    · have other : c ≠ '/' := by
        rintro rfl
        exact (isLast _ List.mem_cons_self).apart (by simp)
      refine ⟨_, each, ?_⟩
      rw [text, List.concat_eq_append, ← List.cons_append, ← List.append_assoc,
        trimSlashes_other other]

/-- What stands in front of a path keeps its slashes. -/
theorem trimSlashes_append {front path : List Char} (other : c ≠ '/') :
    AgentEndpoint.trimSlashes (front ++ [c] ++ path)
      = front ++ [c] ++ AgentEndpoint.trimSlashes path := by
  induction path using List.reverseRecOn with
  | nil =>
    rw [List.append_nil, trimSlashes_other other]
    exact (List.append_nil _).symm
  | append_singleton path last ih =>
    rw [← List.append_assoc]
    by_cases slash : last = '/'
    · rw [slash, trimSlashes_slash, trimSlashes_slash, ih]
    · rw [trimSlashes_other slash, trimSlashes_other slash, List.append_assoc]

/-- A path that was read and shortened is read as it is written with a segment behind it. -/
theorem absolutePath_extended (each : ∀ segment ∈ parts, IsSegment segment)
    (isSegment : IsSegment segment) :
    absolutePath true (AgentEndpoint.trimSlashes (pathText parts) ++ '/' :: segment)
      = AgentEndpoint.trimSlashes (pathText parts) ++ '/' :: segment := by
  obtain ⟨kept, isKept, text⟩ := trimSlashes_pathText each
  have extended : pathText kept ++ '/' :: segment = pathText (kept ++ [segment]) := by
    simp [pathText]
  rw [text, extended]
  exact absolutePath_pathText (by simp)
    (List.forall_mem_append.mpr ⟨isKept, List.forall_mem_singleton.mpr isSegment⟩)

end VmDeploy.Url
