import ClassFormat.Proofs.ClassFile.Journal
import ClassFormat.Proofs.ClassFile.Suffix
import Mathlib.Data.List.Pairwise

/-!
# Class files that are cut off

The journal of a decode tells where each section began, and so which bytes belong to which section.
A class file that is cut off anywhere before its end is refused: a read ran out of bytes exactly at
the cut, and it is reported in the section to which the first missing byte belongs.

## Main definitions

* `ClassFormat.Span` — a section with the positions of its bytes.
* `ClassFormat.ClassFile.spans` — the spans of the sections, by the journal of the decode.
* `ClassFormat.ClassFile.extent` — where the decode of a class file ends.
* `ClassFormat.Sectioned` — a decoder that is made of sections.

## Main results

* `ClassFormat.Sectioned.bind` — sections in a row.
* `ClassFormat.ClassFile.sectioned_sectionsReader` — a class file is made of its eight sections.
* `ClassFormat.ClassFile.decode_take` — a class file that is cut off.
-/

namespace ClassFormat

/-- A section with the positions of its bytes, from `first` up to but not including `last`. -/
structure Span where
  part : Section
  first : Nat
  last : Nat
  deriving DecidableEq, Repr

/-- Spans of different sections without a common position. -/
def Span.Apart (a b : Span) : Prop :=
  a.part ≠ b.part ∧ (a.last ≤ b.first ∨ b.last ≤ a.first)

/-- If one stretch lies apart from another one, so does the other one from it. -/
instance : Std.Symm Span.Apart where
  symm _ _ h := ⟨h.1.symm, h.2.symm⟩

/-- Where the first section of a journal begins, if there is one, and otherwise `stop`. -/
def nextBeginning (journal : List Event) (stop : Nat) : Nat :=
  ((journal.findSome? Event.beginning?).map Prod.snd).getD stop

/-- The sections that a journal begins. Each one ends where the next one begins, the last one at
`stop`. -/
def spansOf : List Event → Nat → List Span
  | [], _ => []
  | event :: journal, stop =>
    match event.beginning? with
    | some (part, first) => ⟨part, first, nextBeginning journal stop⟩ :: spansOf journal stop
    | none => spansOf journal stop

/-- The first beginning in two journals is sought in the first one, and then in the second one. -/
lemma nextBeginning_append (journal journal' : List Event) (stop : Nat) :
    nextBeginning (journal ++ journal') stop =
      nextBeginning journal (nextBeginning journal' stop) := by
  unfold nextBeginning
  rw [List.findSome?_append]
  cases journal.findSome? Event.beginning? <;> rfl

/-- The last section of the first journal lasts up to the first beginning in the second one. -/
lemma spansOf_append (journal journal' : List Event) (stop : Nat) :
    spansOf (journal ++ journal') stop =
      spansOf journal (nextBeginning journal' stop) ++ spansOf journal' stop := by
  induction journal with
  | nil => rfl
  | cons event journal ih =>
    rw [List.cons_append, spansOf, spansOf, nextBeginning_append, ih]
    split <;> rfl

section Quiet

variable {journal : List Event} (h : ∀ event ∈ journal, event.beginning? = none) (stop : Nat)
include h

/-- Where no section begins, the section before lasts to the end. -/
lemma nextBeginning_of_quiet : nextBeginning journal stop = stop := by
  rw [nextBeginning, List.findSome?_eq_none_iff.mpr h]
  rfl

/-- Where no section begins, there is none. -/
lemma spansOf_of_quiet : spansOf journal stop = [] := by
  induction journal with
  | nil => rfl
  | cons event journal ih =>
    rw [spansOf, h event List.mem_cons_self]
    exact ih fun event hevent => h event (List.mem_cons_of_mem _ hevent)

end Quiet

/-! ## Outcomes made of sections -/

namespace Outcome

variable {ε α : Type} {start : Cursor}

/-- The sections of an outcome. -/
def spans (outcome : Outcome ε α start) : List Span :=
  spansOf outcome.journal outcome.cursor.position

/-- An outcome whose sections are the given ones, one behind the other, from the start to where it
stopped. -/
structure Tiled (parts : List Section) (outcome : Outcome ε α start) : Prop where
  opens : nextBeginning outcome.journal outcome.cursor.position = start.position
  parts : outcome.spans.map Span.part = parts
  bounded : ∀ span ∈ outcome.spans,
    start.position ≤ span.first ∧ span.last ≤ outcome.cursor.position
  ordered : outcome.spans.Pairwise fun a b => a.last ≤ b.first

end Outcome

open Decoder hiding word split Extensible extensible_split
open Record

section Sectioned

variable {α β : Type}

/-- A decoder that is made of the given sections. If its window is too short, it blames the section
to which the first missing byte belongs. -/
structure Sectioned (parts : List Section) (decoder : Decoder ClassFault α) : Prop where
  extensible : Decoder.Extensible ClassFault.IsShortage decoder
  tiled : ∀ start value, (decoder start).result = .ok value → (decoder start).Tiled parts
  blames : ∀ start tail fault value, (decoder start).result = .error fault →
    (decoder (start.extend tail)).result = .ok value →
    ∃ span ∈ (decoder (start.extend tail)).spans, span.part = fault.part ∧
      span.first ≤ start.finish ∧ start.finish < span.last

/-- If the second of two steps begins where the first one stopped, the sections of both are those of
the first and those of the second. -/
lemma spans_bind {first : Decoder ClassFault α} {next : α → Decoder ClassFault β} {start : Cursor}
    {value : α} {parts : List Section} (h : (first start).result = .ok value)
    (htiled : (next value (first start).cursor).Tiled parts) :
    ((first >>= next) start).spans =
      (first start).spans ++ (next value (first start).cursor).spans := by
  unfold Outcome.spans
  rw [journal_bind_of_ok h, cursor_bind_of_ok h, spansOf_append, htiled.opens]

/-- Two decodes one behind the other lay their sections end to end. -/
lemma Outcome.Tiled.bind {first : Decoder ClassFault α} {next : α → Decoder ClassFault β}
    {start : Cursor} {value : α} {parts parts' : List Section}
    (h : (first start).result = .ok value) (hfirst : (first start).Tiled parts)
    (hnext : (next value (first start).cursor).Tiled parts') :
    ((first >>= next) start).Tiled (parts ++ parts') := by
  have hstop := Cursor.position_le_of_le (next value (first start).cursor).ahead
  have hstart := Cursor.position_le_of_le (first start).ahead
  refine ⟨?_, ?_, ?_, ?_⟩
  · rw [journal_bind_of_ok h, cursor_bind_of_ok h, nextBeginning_append, hnext.opens, hfirst.opens]
  · rw [spans_bind h hnext, List.map_append, hfirst.parts, hnext.parts]
  · rw [spans_bind h hnext, cursor_bind_of_ok h]
    intro span hspan
    rcases List.mem_append.mp hspan with hmem | hmem
    · have hbounds := hfirst.bounded span hmem
      omega
    · have hbounds := hnext.bounded span hmem
      omega
  · rw [spans_bind h hnext, List.pairwise_append]
    refine ⟨hfirst.ordered, hnext.ordered, fun a ha b hb => ?_⟩
    have hlast := (hfirst.bounded a ha).2
    have hfirst := (hnext.bounded b hb).1
    omega

/-- **Sections in a row.** What is made of sections, followed by what is made of sections, is made
of both.

**Proof sketch.** In a window that is too short either the first step fails, and the section it
blames is one of the whole; or the first step goes as in the longer window, and the second one fails
from there. -/
lemma Sectioned.bind {first : Decoder ClassFault α} {next : α → Decoder ClassFault β}
    {parts parts' : List Section} (hfirst : Sectioned parts first)
    (hnext : ∀ value, Sectioned parts' (next value)) :
    Sectioned (parts ++ parts') (first >>= next) := by
  refine ⟨hfirst.extensible.bind fun value => (hnext value).extensible, ?_, ?_⟩
  · intro start value hok
    obtain ⟨middle, hmiddle, hrest, _⟩ := exists_of_bind_ok hok
    exact (hfirst.tiled start middle hmiddle).bind hmiddle ((hnext middle).tiled _ value hrest)
  · intro start tail fault value herror hok
    obtain ⟨middle, hmiddle, hrest, _⟩ := exists_of_bind_ok hok
    have hspans := spans_bind hmiddle ((hnext middle).tiled _ value hrest)
    cases h : (first start).result with
    | error fault' =>
      rw [result_bind_of_error h] at herror
      cases herror
      obtain ⟨span, hspan, hspanned⟩ := hfirst.blames start tail fault middle h hmiddle
      exact ⟨span, by rw [hspans]; exact List.mem_append_left _ hspan, hspanned⟩
    | ok found =>
      cases hfirst.extensible start tail with
      | beyond hresult _ _ =>
        rw [h] at hresult
        cases hresult
      | within hresult hcursor =>
        rw [h, hmiddle] at hresult
        cases hresult
        rw [hcursor] at hrest hspans
        rw [result_bind_of_ok h] at herror
        obtain ⟨span, hspan, hspanned⟩ :=
          (hnext middle).blames (first start).cursor tail fault value herror hrest
        rw [Cursor.finish_eq_of_le (first start).ahead] at hspanned
        exact ⟨span, by rw [hspans]; exact List.mem_append_right _ hspan, hspanned⟩

end Sectioned

/-! ## The sections of a class file -/

namespace ClassFile

/-- A section covers what its content reads. -/
lemma inSection_spans {α : Type} (part : Section) {content : Decoder Fault α} (start : Cursor)
    (hquiet : Quiet content start) :
    (inSection part content start).spans =
      [⟨part, start.position, (content start).cursor.position⟩] := by
  rw [Outcome.spans, inSection_journal, inSection_cursor, spansOf, Event.beginning?]
  simp only [spansOf_of_quiet hquiet, nextBeginning_of_quiet hquiet]

/-- A section is made of itself, if what it holds does not look behind its window and begins no
section. -/
lemma sectioned_inSection {α : Type} (part : Section) {content : Decoder Fault α}
    (hextensible : Record.Extensible content) (hquiet : ∀ start, Quiet content start) :
    Sectioned [part] (inSection part content) := by
  refine ⟨extensible_inSection part hextensible, ?_, ?_⟩
  · intro start value _
    have hle := Cursor.position_le_of_le (content start).ahead
    refine ⟨rfl, ?_, ?_, ?_⟩
    · rw [inSection_spans part start (hquiet start)]
      rfl
    · rw [inSection_spans part start (hquiet start), inSection_cursor]
      intro span hspan
      rw [List.mem_singleton.mp hspan]
      exact ⟨Nat.le_refl _, Nat.le_refl _⟩
    · rw [inSection_spans part start (hquiet start)]
      exact List.pairwise_singleton _ _
  · intro start tail fault value herror hok
    cases extensible_inSection part hextensible start tail with
    | within hresult _ =>
      rw [herror, hok] at hresult
      cases hresult
    | beyond _ _ hpast =>
      have hlt := hpast value hok
      have hoffset := start.offset_le
      have hbase := (content (start.extend tail)).ahead.2.1
      rw [inSection_cursor] at hlt
      rw [inSection_spans part _ (hquiet _)]
      obtain ⟨_, _, rfl⟩ := inSection_error part start herror
      refine ⟨_, List.mem_singleton_self _, rfl, ?_, ?_⟩
      · show start.base + start.offset ≤ start.finish
        unfold Cursor.finish
        omega
      · show start.finish < Cursor.position _
        unfold Cursor.finish Cursor.position
        rw [hbase]
        simp only [Cursor.extend_base]
        omega

/-- The notes at the end begin no section. -/
lemma sectioned_finish (file : ClassFile) : Sectioned [] (finish file) := by
  have hquiet : ∀ start, Quiet (finish file) start := by
    intro start
    unfold finish
    refine (obeys_here start).bind fun stop _ => ?_
    split
    · exact (quiet_note rfl _).bind fun _ _ => obeys_pure _ _
    · refine (quiet_note rfl _).bind fun _ _ => ?_
      exact (quiet_note rfl _).bind fun _ _ => obeys_pure _ _
  refine ⟨?_, ?_, ?_⟩
  · exact extensible_of_still (fun start => (finish_apply file start).1) fun start =>
      (finish_apply file start).2
  · intro start _ _
    have hspans : (finish file start).spans = [] := spansOf_of_quiet (hquiet start) _
    refine ⟨?_, ?_, ?_, ?_⟩
    · rw [nextBeginning_of_quiet (hquiet start), (finish_apply file start).2]
    · rw [hspans]
      rfl
    · rw [hspans]
      simp
    · rw [hspans]
      exact List.Pairwise.nil
  · intro start _ fault _ herror _
    rw [(finish_apply file start).1] at herror
    cases herror

/-- **A class file is made of its eight sections**, in file order. -/
theorem sectioned_sectionsReader (raw : Bytes) (options : Options) :
    Sectioned [.header, .constantPool, .accessFlags, .classNames, .interfaces, .fields, .methods,
      .attributes] (sectionsReader raw options) := by
  unfold sectionsReader
  refine (sectioned_inSection .header (extensible_headerReader options)
    (quiet_headerReader options)).bind fun version => ?_
  refine (sectioned_inSection .constantPool (extensible_poolReader options)
    (quiet_poolReader options)).bind fun pool => ?_
  refine (sectioned_inSection .accessFlags (Access.extensible_reader options _)
    (Access.quiet_reader options _)).bind fun access => ?_
  refine (sectioned_inSection .classNames (extensible_namesReader pool)
    (quiet_namesReader pool)).bind ?_
  rintro ⟨name, superName⟩
  refine (sectioned_inSection .interfaces (extensible_interfaceReader pool).table
    fun _ => quiet_table fun c _ => quiet_interfaceReader pool c).bind fun interfaces => ?_
  refine (sectioned_inSection .fields (Field.extensible_reader pool options).table
    fun _ => quiet_table fun c _ => Field.quiet_reader pool options c).bind fun fields => ?_
  refine (sectioned_inSection .methods (Method.extensible_reader pool options).table
    fun _ => quiet_table fun c _ => Method.quiet_reader pool options c).bind fun methods => ?_
  exact (sectioned_inSection .attributes (Attribute.extensible_listReader pool)
    (Attribute.quiet_listReader pool)).bind fun attributes => sectioned_finish _

/-! ## A class file that is cut off -/

/-- The spans of the sections of a class file, by the journal of its decode. -/
def spans (options : Options) (bytes : Bytes) : List Span :=
  (reader options (.ofBytes bytes)).spans

/-- The position behind the last byte that the decode of a class file read. -/
def extent (options : Options) (bytes : Bytes) : Nat :=
  (reader options (.ofBytes bytes)).cursor.position

/-- The extent of a decode is the offset at which its sections stop. -/
lemma extent_eq_offset (options : Options) (bytes : Bytes) :
    extent options bytes = (sectionsReader bytes options (.ofBytes bytes)).cursor.offset := by
  have hbase := (sectionsReader bytes options (.ofBytes bytes)).ahead.2.1
  show Cursor.position (sectionsReader bytes options (.ofBytes bytes)).cursor = _
  rw [Cursor.position, hbase]
  exact Nat.zero_add _

/-- A decode extends no further than the input. -/
lemma extent_le_length (options : Options) (bytes : Bytes) :
    extent options bytes ≤ bytes.length := by
  have hwindow := (sectionsReader bytes options (.ofBytes bytes)).ahead.1
  have hoffset := (sectionsReader bytes options (.ofBytes bytes)).cursor.offset_le
  rw [hwindow, ← extent_eq_offset] at hoffset
  exact hoffset

/-- Any two spans of a class file are apart. -/
lemma apart_of_mem_spans {bytes : Bytes} {options : Options} {file : ClassFile}
    (h : decode bytes options = .ok file) {a b : Span} (ha : a ∈ spans options bytes)
    (hb : b ∈ spans options bytes) (hne : a ≠ b) : a.Apart b := by
  have htiled := (sectioned_sectionsReader bytes options).tiled (.ofBytes bytes) file h
  have hparts : (spans options bytes).Pairwise fun a b => a.part ≠ b.part := by
    rw [← List.pairwise_map]
    show List.Pairwise (· ≠ ·) ((sectionsReader bytes options (.ofBytes bytes)).spans.map Span.part)
    rw [htiled.parts]
    decide
  have hapart : (spans options bytes).Pairwise Span.Apart :=
    hparts.and (htiled.ordered.imp Or.inl)
  exact hapart.forall ha hb hne

/-- **A class file that is cut off** anywhere before its end is refused. The fault is a read that
ran out of bytes at the cut, reported where that read began, and in the section to which the first
missing byte belongs.

**Proof sketch.** The whole class file continues the cut one. If the decode of the cut one stayed in
its window, the decode of the whole would end before the cut. So it runs into the end, and its
section is one of the whole file that holds the position of the cut; there is only one such section.
-/
theorem decode_take {bytes : Bytes} {options : Options} {file : ClassFile}
    (h : decode bytes options = .ok file) {k : Nat} (hk : k < extent options bytes) :
    ∃ part offset wanted available,
      decode (bytes.take k) options =
        .error ⟨part, offset, .truncated (.outOfBounds offset wanted available)⟩ ∧
      offset + available = k ∧ available < wanted ∧
      (∃ span ∈ spans options bytes, span.part = part) ∧
      ∀ span ∈ spans options bytes, span.part = part ↔ span.first ≤ k ∧ k < span.last := by
  have hsectioned := sectioned_sectionsReader bytes options
  have hwhole : (Cursor.ofBytes (bytes.take k)).extend (bytes.drop k) = .ofBytes bytes := by
    rw [Cursor.ofBytes_extend, List.take_append_drop]
  have hlength : (bytes.take k).length = k := by
    have hle := extent_le_length options bytes
    rw [List.length_take]
    omega
  have hfinish : (Cursor.ofBytes (bytes.take k)).finish = k := by
    show 0 + (bytes.take k).length = k
    omega
  cases hsectioned.extensible (.ofBytes (bytes.take k)) (bytes.drop k) with
  | within _ hcursor =>
    -- the decode of the whole would end inside the cut one
    have hwindow := (sectionsReader bytes options (.ofBytes (bytes.take k))).ahead.1
    have hoffset := (sectionsReader bytes options (.ofBytes (bytes.take k))).cursor.offset_le
    rw [hwhole] at hcursor
    rw [extent_eq_offset, hcursor, Cursor.extend_offset] at hk
    rw [hwindow] at hoffset
    change _ ≤ (bytes.take k).length at hoffset
    omega
  | @beyond fault hresult hshort _ =>
    obtain ⟨offset, wanted, available, hcause, hsum, hlt⟩ := hshort.1.exists_eq
    have hlocation := hshort.2
    have hblames := hsectioned.blames (.ofBytes (bytes.take k)) (bytes.drop k) fault file hresult
    rw [hwhole, hfinish] at hblames
    obtain ⟨span, hspan, hpart, hspanned⟩ := hblames h
    have hoffset : offset = fault.offset := by
      rw [hcause] at hlocation
      exact Option.some.inj hlocation
    have hdecode : decode (bytes.take k) options = .error fault := by
      rw [decode_eq, sectionsReader_result bytes, hresult]
      rfl
    refine ⟨fault.part, offset, wanted, available, ?_, by rw [hsum, hfinish], hlt,
      ⟨span, hspan, hpart⟩, ?_⟩
    · rw [hdecode, ← hcause, hoffset]
    · intro other hother
      by_cases heq : other = span
      · rw [heq]
        exact iff_of_true hpart hspanned
      · obtain ⟨hparts, hranges⟩ := apart_of_mem_spans h hother hspan heq
        refine iff_of_false (fun hsame => hparts (hsame.trans hpart.symm)) ?_
        omega

/-- A class file that is cut off in the code of a body inside a body. -/
theorem decode_take_nestedBodies :
    (∃ file, decode (nestedBodies [0, 0, 0xB1]) {} = .ok file) ∧
    85 < extent {} (nestedBodies [0, 0, 0xB1]) ∧
    ∃ part offset wanted available,
      decode ((nestedBodies [0, 0, 0xB1]).take 85) {} =
        .error ⟨part, offset, .truncated (.outOfBounds offset wanted available)⟩ ∧
      offset + available = 85 ∧ available < wanted ∧
      (∃ span ∈ spans {} (nestedBodies [0, 0, 0xB1]), span.part = part) ∧
      ∀ span ∈ spans {} (nestedBodies [0, 0, 0xB1]),
        span.part = part ↔ span.first ≤ 85 ∧ 85 < span.last := by
  obtain ⟨file, hfile⟩ : ∃ file, decode (nestedBodies [0, 0, 0xB1]) {} = .ok file :=
    exists_decode_eq_ok_iff.mpr (by decide +kernel)
  have hextent : 85 < extent {} (nestedBodies [0, 0, 0xB1]) := by decide +kernel
  exact ⟨⟨file, hfile⟩, hextent, decode_take hfile hextent⟩

end ClassFile

end ClassFormat
