import ClassFormat.CommandLine.Session
import ClassFormat.Proofs.ClassFile.Sections
import ClassFormat.Proofs.Descriptor.Package
import ClassFormat.Proofs.Listing.Disassembly
import ClassFormat.Proofs.Listing.PoolLines

/-!
# Colour in listings

A listing is made of pieces of text, and colour puts some of them between escape codes. Nothing else
changes with it: the two listings of a class file can be cut into the same pieces, and where no text
of the file brings escapes of its own, the plain listing is what is left of the coloured one without
its escape sequences. A file never gets colour.

## Main definitions

* `ClassFormat.Painted` — a text as it is, or between the escape codes of a role.
* `ClassFormat.withoutSequences` — a text without its escape sequences.
* `ClassFormat.ClassFile.texts` — the texts of a class file that a view can show.

## Main results

* `ClassFormat.withoutSequences_render` — a coloured listing without its escape sequences is the
  plain one.
* `ClassFormat.ClassFile.escapeFree_viewLines` — a view brings no escapes of its own.
* `ClassFormat.ClassFile.shown_coloured` — colour only adds escape codes.
-/

namespace ClassFormat

/-! ## Pieces -/

/-- A text as it is, or between the escape codes of a role whose style has any. -/
inductive Painted (text : String) : String → Prop
  | bare : Painted text text
  | styled (role : Role) (hcodes : role.style.codes ≠ []) :
    Painted text ("\x1b[" ++ ";".intercalate role.style.codes ++ "m" ++ text ++ "\x1b[0m")

/-- With colour, a piece is what it is without, or that between escape codes. -/
lemma painted_paint (piece : Piece) :
    Painted (Palette.plain.paint piece) (Palette.coloured.paint piece) := by
  rw [Palette.paint_plain]
  obtain ⟨role, text⟩ := piece
  cases role with
  | none => exact .bare
  | some role =>
    show Painted text (role.style.apply text)
    unfold Style.apply
    split
    · exact .bare
    · next hcodes => exact .styled role hcodes

/-- The pieces of a listing, in which the end of a line is a piece too. -/
def piecesOf (lines : List Line) : List Piece :=
  lines.flatMap fun line => line ++ [.bare "\n"]

/-- A listing is its pieces in a row. -/
lemma render_eq_join (palette : Palette) (lines : List Line) :
    palette.render lines = String.join ((piecesOf lines).map palette.paint) := by
  have hnewline : palette.paint (.bare "\n") = "\n" := by cases palette <;> rfl
  rw [Palette.render, piecesOf]
  induction lines with
  | nil => rfl
  | cons line lines ih =>
    simp only [List.map_cons, List.flatMap_cons, List.map_append, String.join_cons,
      String.join_append, ih,
      Palette.renderLine, hnewline, List.map_nil, String.join_nil, String.append_empty]

/-- With colour, pieces are what they are without, but some of them painted. -/
lemma forall₂_painted (pieces : List Piece) :
    List.Forall₂ Painted (pieces.map Palette.plain.paint) (pieces.map Palette.coloured.paint) := by
  rw [List.forall₂_map_left_iff, List.forall₂_map_right_iff, List.forall₂_same]
  exact fun piece _ => painted_paint piece

/-! ## Escape sequences -/

/-- Whether a character can stand among codes: they are numbers with semicolons between them. -/
def isCode (c : Char) : Bool :=
  c.isDigit || c == ';'

/-- What stands behind the codes that a text begins with and the letter that ends them. -/
def behindCodes? : List Char → Option (List Char)
  | [] => none
  | c :: rest => if c = 'm' then some rest else if isCode c then behindCodes? rest else none

/-- What stands behind the escape sequence that a text begins with. -/
def behindSequence? : List Char → Option (List Char)
  | '\x1b' :: '[' :: rest => behindCodes? rest
  | _ => none

/-- Passing codes uses up at least the letter that ends them. -/
lemma length_lt_of_behindCodes? {text rest : List Char} (h : behindCodes? text = some rest) :
    rest.length < text.length := by
  fun_induction behindCodes? text with
  | case1 => cases h
  | case2 tail =>
    cases h
    exact Nat.lt_succ_self _
  | case3 c tail _ _ ih => exact Nat.lt_succ_of_lt (ih h)
  | case4 => cases h

/-- Passing an escape sequence uses up text. -/
lemma length_lt_of_behindSequence? {text rest : List Char} (h : behindSequence? text = some rest) :
    rest.length < text.length := by
  unfold behindSequence? at h
  split at h
  · have hlt := length_lt_of_behindCodes? h
    simp only [List.length_cons]
    omega
  · cases h

/-- A text without its escape sequences. -/
def withoutSequences : List Char → List Char
  | [] => []
  | c :: rest =>
    match _hbehind : behindSequence? (c :: rest) with
    | some behind => withoutSequences behind
    | none => c :: withoutSequences rest
termination_by text => text.length
decreasing_by
  · exact length_lt_of_behindSequence? _hbehind
  · exact Nat.lt_succ_self _

/-- An escape sequence at the beginning of a text is left out. -/
lemma withoutSequences_of_some {text rest : List Char} (h : behindSequence? text = some rest) :
    withoutSequences text = withoutSequences rest := by
  cases text with
  | nil => cases h
  | cons c tail =>
    rw [withoutSequences]
    split
    · next behind heq =>
      rw [h] at heq
      cases heq
      rfl
    · next heq =>
      rw [h] at heq
      cases heq

/-- A character at which no escape sequence begins is kept. -/
lemma withoutSequences_of_none {c : Char} {rest : List Char}
    (h : behindSequence? (c :: rest) = none) :
    withoutSequences (c :: rest) = c :: withoutSequences rest := by
  rw [withoutSequences]
  split
  · next behind heq =>
    rw [h] at heq
    cases heq
  · rfl

/-- Text without escapes is kept. -/
lemma withoutSequences_append {text : List Char} (h : '\x1b' ∉ text) (rest : List Char) :
    withoutSequences (text ++ rest) = text ++ withoutSequences rest := by
  induction text with
  | nil => rfl
  | cons c text ih =>
    have hc : '\x1b' ≠ c := fun heq => h (heq ▸ List.mem_cons_self)
    have hnone : behindSequence? (c :: (text ++ rest)) = none := by
      unfold behindSequence?
      split
      · next heq => exact absurd (List.cons.inj heq).1.symm hc
      · rfl
    rw [List.cons_append, withoutSequences_of_none hnone, ih (List.not_mem_of_not_mem_cons h),
      List.cons_append]

/-- Codes are passed up to the letter that ends them. -/
lemma behindCodes?_append {codes : List Char} (h : codes.all isCode = true) (rest : List Char) :
    behindCodes? (codes ++ 'm' :: rest) = some rest := by
  induction codes with
  | nil => rfl
  | cons c codes ih =>
    rw [List.all_cons, Bool.and_eq_true] at h
    have hm : c ≠ 'm' := by
      intro heq
      rw [heq] at h
      cases h.1
    rw [List.cons_append, behindCodes?, if_neg hm, if_pos h.1, ih h.2]

/-- An escape sequence is left out. -/
lemma withoutSequences_sequence {codes : List Char} (h : codes.all isCode = true)
    (rest : List Char) :
    withoutSequences ('\x1b' :: '[' :: (codes ++ 'm' :: rest)) = withoutSequences rest :=
  withoutSequences_of_some (behindCodes?_append h rest)

/-- The codes of a role are numbers with semicolons between them. -/
lemma Role.all_isCode_codes (role : Role) :
    (";".intercalate role.style.codes).toList.all isCode = true := by
  cases role <;> decide

/-- A text without escapes. -/
def EscapeFree (text : String) : Prop :=
  '\x1b' ∉ text.toList

/-- Whether a text has escapes is seen by looking through it. -/
instance (text : String) : Decidable (EscapeFree text) :=
  inferInstanceAs (Decidable ('\x1b' ∉ text.toList))

/-- A line none of whose pieces has escapes. -/
def Line.EscapeFree (line : Line) : Prop :=
  ∀ piece ∈ line, ClassFormat.EscapeFree piece.text

/-- Of a painted text, the text itself is left. -/
lemma Painted.withoutSequences_append {text painted : String} (h : Painted text painted)
    (htext : EscapeFree text) (rest : List Char) :
    withoutSequences (painted.toList ++ rest) = text.toList ++ withoutSequences rest := by
  cases h with
  | bare => exact ClassFormat.withoutSequences_append htext rest
  | styled role hcodes =>
    have hshape :
        ("\x1b[" ++ ";".intercalate role.style.codes ++ "m" ++ text ++ "\x1b[0m").toList ++ rest =
        '\x1b' :: '[' :: ((";".intercalate role.style.codes).toList ++
          'm' :: (text.toList ++ '\x1b' :: '[' :: (['0'] ++ 'm' :: rest))) := by
      simp
    rw [hshape, withoutSequences_sequence role.all_isCode_codes,
      ClassFormat.withoutSequences_append htext, withoutSequences_sequence (by decide)]

/-- Painted texts without their escape sequences are the texts, if these bring no escapes of their
own. -/
lemma withoutSequences_join {texts painted : List String} (h : List.Forall₂ Painted texts painted)
    (htexts : ∀ text ∈ texts, EscapeFree text) :
    withoutSequences (String.join painted).toList = (String.join texts).toList := by
  induction h with
  | nil => rw [String.join_nil, String.toList_empty, withoutSequences]
  | cons hfirst _ ih =>
    obtain ⟨hfree, hothers⟩ := List.forall_mem_cons.mp htexts
    rw [String.join_cons, String.toList_append, hfirst.withoutSequences_append hfree, ih hothers,
      String.join_cons, String.toList_append]

/-- **A coloured listing without its escape sequences is the plain one**, if its lines bring no
escapes of their own.

**Proof sketch.** By induction on the pieces. The codes of a style are digits and semicolons, so a
sequence ends with the first letter behind it, wherever the text that follows goes on. -/
theorem withoutSequences_render {lines : List Line} (h : ∀ line ∈ lines, line.EscapeFree) :
    withoutSequences (Palette.coloured.render lines).toList =
      (Palette.plain.render lines).toList := by
  rw [render_eq_join, render_eq_join, withoutSequences_join (forall₂_painted _)]
  simp only [List.forall_mem_map, Palette.paint_plain, piecesOf, List.forall_mem_flatMap,
    List.forall_mem_append, List.forall_mem_singleton]
  exact fun line hline => ⟨h line hline, by decide⟩

/-! ## Texts without escapes -/

/-- Two texts in a row have no escapes if neither has. -/
@[simp]
lemma escapeFree_append {a b : String} : EscapeFree (a ++ b) ↔ EscapeFree a ∧ EscapeFree b := by
  simp [EscapeFree]

/-- A number is written without escapes. -/
@[simp]
lemma escapeFree_repr (number : Nat) : EscapeFree number.repr :=
  not_mem_toString (by decide) number

/-- A text that takes its characters from another one has no escapes if that one has none. -/
lemma EscapeFree.of_subset {a b : String} (hb : EscapeFree b) (h : a.toList ⊆ b.toList) :
    EscapeFree a :=
  fun hmem => hb (h hmem)

/-- A text of letters and digits has no escapes. -/
lemma escapeFree_of_isAlphanum {text : String} (h : ∀ c ∈ text.toList, c.isAlphanum = true) :
    EscapeFree text :=
  fun hmem => absurd (h _ hmem) (by decide)

/-- Bytes are shown without escapes. -/
@[simp]
lemma escapeFree_pairs (bytes : Bytes) : EscapeFree (Hex.pairs bytes) :=
  escapeFree_of_isAlphanum fun _ => Hex.isAlphanum_of_mem_pairs

/-- The name of a kind of constants has no escapes. -/
@[simp]
lemma Kind.escapeFree_name (kind : Kind) : EscapeFree kind.name :=
  escapeFree_of_isAlphanum fun _ => isAlphanum_of_mem_name

/-- A mnemonic has no escapes. -/
@[simp]
lemma Opcode.escapeFree_mnemonic (opcode : Opcode) : EscapeFree opcode.mnemonic :=
  not_mem_toList_of_forall_lt opcode.utf8Bytes_mnemonic.2 0x1B (by decide) (by decide)

/-- The keyword of a flag has no escapes. -/
@[simp]
lemma Flag.escapeFree_keyword (flag : Flag) : EscapeFree flag.keyword := by
  cases flag <;> decide

/-- A version is written without escapes. -/
@[simp]
lemma Version.escapeFree_text (version : Version) : EscapeFree version.text := by
  simp +decide [Version.text]

/-- What an intercalation holds is in the separator or in one of the lists. -/
lemma mem_of_mem_intercalate {α : Type} {separator : List α} {lists : List (List α)} {a : α}
    (h : a ∈ separator.intercalate lists) : a ∈ separator ∨ ∃ list ∈ lists, a ∈ list := by
  induction lists with
  | nil => cases h
  | cons list lists ih =>
    by_cases hlists : lists = []
    · rw [hlists, List.intercalate_singleton] at h
      exact .inr ⟨list, List.mem_cons_self, h⟩
    · rw [List.intercalate_cons_of_ne_nil hlists, List.append_assoc, List.mem_append,
        List.mem_append] at h
      rcases h with hlist | hseparator | hothers
      · exact .inr ⟨list, List.mem_cons_self, hlist⟩
      · exact .inl hseparator
      · refine (ih hothers).imp_right ?_
        rintro ⟨other, hmem, ha⟩
        exact ⟨other, List.mem_cons_of_mem _ hmem, ha⟩

/-- Flags are shown without escapes. -/
@[simp]
lemma Access.escapeFree_text (access : Access) : EscapeFree access.text := by
  intro hmem
  rw [Access.text, String.toList_intercalate, List.map_map] at hmem
  rcases mem_of_mem_intercalate hmem with hblank | ⟨keyword, hkeyword, hmem⟩
  · revert hblank
    decide
  · obtain ⟨flag, -, rfl⟩ := List.mem_map.mp hkeyword
    exact flag.escapeFree_keyword hmem

/-- Making line ends visible brings no escapes. -/
lemma EscapeFree.oneLine {text : String} (h : EscapeFree text) :
    EscapeFree (Contents.oneLine text) := by
  intro hmem
  rw [Contents.oneLine, String.toList_ofList, List.mem_flatMap] at hmem
  obtain ⟨c, hc, hmem⟩ := hmem
  split at hmem
  · revert hmem
    decide
  · rw [← List.mem_singleton.mp hmem] at hc
    exact h hc

namespace InternalName

/-- A simple name has no escapes if the name has none. -/
lemma escapeFree_simpleName {name : String} (h : EscapeFree name) : EscapeFree (simpleName name) :=
  h.of_subset (simpleName_subset name)

/-- A package has no escapes if the name has none. -/
lemma escapeFree_package? {name package : String} (h : EscapeFree name)
    (hpackage : package? name = some package) : EscapeFree package :=
  h.of_subset (package_subset hpackage)

/-- Dots for slashes bring no escapes. -/
lemma escapeFree_dotted {name : String} (h : EscapeFree name) : EscapeFree (dotted name) := by
  intro hmem
  rw [dotted, String.toList_map, List.mem_map] at hmem
  obtain ⟨c, hc, heq⟩ := hmem
  split at heq
  · revert heq
    decide
  · exact h (heq ▸ hc)

end InternalName

/-! ## Lines without escapes -/

/-- The empty line has no escapes. -/
@[simp]
lemma Line.escapeFree_nil : Line.EscapeFree [] :=
  List.forall_mem_nil _

/-- A line has no escapes if its first piece and the others have none. -/
@[simp]
lemma Line.escapeFree_cons {piece : Piece} {line : Line} :
    Line.EscapeFree (piece :: line) ↔ ClassFormat.EscapeFree piece.text ∧ Line.EscapeFree line :=
  List.forall_mem_cons

/-- Two lines in a row have no escapes if neither has. -/
@[simp]
lemma Line.escapeFree_append {line line' : Line} :
    Line.EscapeFree (line ++ line') ↔ Line.EscapeFree line ∧ Line.EscapeFree line' :=
  List.forall_mem_append

namespace Contents

/-- The line of flags has no escapes but those of its indentation. -/
lemma escapeFree_access {indent : String} (hindent : EscapeFree indent) (flags : Access) :
    Line.EscapeFree (access indent flags) := by
  simp +decide [access, Piece.bare, Role.piece, hindent]

/-- The line of a constant shows nothing from outside but the text of the constant, if it has one.
-/
lemma escapeFree_constant (index : Index) {constant : Constant}
    (h : ∀ text, constant.text? = some text → EscapeFree text) :
    Line.EscapeFree (Contents.constant index constant) := by
  have hvalue : EscapeFree (constantValue constant).text := by
    cases constant with
    | utf8 text => exact (h text rfl).oneLine
    | _ => exact escapeFree_pairs _
  simp +decide [Contents.constant, Piece.bare, Role.piece, hvalue]

/-- The lines of the constant pool have no escapes if the texts in the pool have none. -/
lemma escapeFree_pool {pool : Pool}
    (h : ∀ text ∈ pool.entries.filterMap fun entry => entry.2.text?, EscapeFree text) :
    ∀ line ∈ Contents.pool pool, Line.EscapeFree line := by
  rw [List.forall_mem_filterMap] at h
  rw [Contents.pool, List.forall_mem_cons, List.forall_mem_map]
  refine ⟨by simp +decide [heading, Role.piece], fun entry hentry => ?_⟩
  exact escapeFree_constant entry.1 (h entry hentry)

/-- The line of an instruction has no escapes. -/
lemma escapeFree_instruction (instruction : Instruction) :
    Line.EscapeFree (Contents.instruction instruction) := by
  unfold Contents.instruction
  split <;> simp +decide [operands, Piece.bare, Role.piece]

/-- The lines of a body show nothing from outside. -/
lemma escapeFree_code (code : Code) : ∀ line ∈ Contents.code code, Line.EscapeFree line := by
  rw [Contents.code, List.forall_mem_append, List.forall_mem_map]
  refine ⟨?_, fun instruction _ => escapeFree_instruction instruction⟩
  simp +decide [codeHead, Piece.bare]

/-- The lines of attributes have no escapes if their names have none. -/
lemma escapeFree_attributes {indent : String} (hindent : EscapeFree indent)
    {attributes : List Attribute} (h : ∀ text ∈ attributes.map Attribute.name, EscapeFree text) :
    ∀ line ∈ Contents.attributes indent attributes, Line.EscapeFree line := by
  rw [List.forall_mem_map] at h
  rw [Contents.attributes, List.forall_mem_flatMap]
  intro attr hattr
  have hname := h attr hattr
  cases attr with
  | raw _ name data =>
    have hname : EscapeFree name := hname
    simp +decide [oneAttribute, Piece.bare, hindent, hname]
  | code _ name body =>
    have hname : EscapeFree name := hname
    rw [oneAttribute, List.forall_mem_cons]
    exact ⟨by simp +decide [Piece.bare, hindent, hname], escapeFree_code body⟩

end Contents

/-! ## Views of a class file -/

/-- The texts of a member. -/
def memberTexts (name descriptor : String) (attributes : List Attribute) : List String :=
  name :: descriptor :: attributes.map Attribute.name

/-- The lines of a member show its texts. -/
lemma Contents.escapeFree_member {name descriptor : String} {flags : Access}
    {attributes : List Attribute}
    (h : ∀ text ∈ memberTexts name descriptor attributes, EscapeFree text) :
    ∀ line ∈ memberHead name flags descriptor ++ Contents.attributes "      " attributes,
      Line.EscapeFree line := by
  rw [memberTexts, List.forall_mem_cons, List.forall_mem_cons] at h
  obtain ⟨hname, hdescriptor, hattributes⟩ := h
  rw [List.forall_mem_append]
  refine ⟨?_, escapeFree_attributes (by decide) hattributes⟩
  simp +decide [memberHead, escapeFree_access, Piece.bare, Role.piece, hname, hdescriptor]

namespace ClassFile

/-- The texts of a class file that a view can show. -/
def texts (file : ClassFile) : List String :=
  file.name :: file.superName :: file.interfaces ++
    (file.pool.entries.filterMap fun entry => entry.2.text?) ++
    (file.fields.flatMap fun field => memberTexts field.name field.descriptor field.attributes) ++
    (file.methods.flatMap
      fun method => memberTexts method.name method.descriptor method.attributes) ++
    file.attributes.map Attribute.name

/-- The lines of a view. -/
def viewLines (file : ClassFile) : View → List Line
  | .contents => Contents.lines file
  | .outline => Outline.lines file

/-- A view as text. -/
def shown (file : ClassFile) (palette : Palette) : View → String
  | .contents => file.contents palette
  | .outline => file.outline palette

/-- A view is its lines, rendered. -/
lemma shown_eq_render (file : ClassFile) (palette : Palette) (view : View) :
    file.shown palette view = palette.render (file.viewLines view) := by
  cases view <;> rfl

variable {file : ClassFile}

/-- The listing of a class file shows nothing from outside but its texts. -/
lemma escapeFree_contents (h : ∀ text ∈ file.texts, EscapeFree text) :
    ∀ line ∈ Contents.lines file, Line.EscapeFree line := by
  simp only [texts, List.cons_append, List.forall_mem_cons, List.forall_mem_append,
    List.forall_mem_flatMap] at h
  obtain ⟨hname, hsuper, ⟨⟨⟨hinterfaces, hpool⟩, hfields⟩, hmethods⟩, hattributes⟩ := h
  have hheading : ∀ text, EscapeFree text → Line.EscapeFree (Contents.heading text) := by
    intro text htext
    simp [Contents.heading, Role.piece, htext]
  have hhead : ∀ line ∈ Contents.head file, Line.EscapeFree line := by
    simp +decide [Contents.head, Contents.gap, Piece.bare, Role.piece, hname, hsuper]
  have hinterface : ∀ name ∈ file.interfaces, Line.EscapeFree (Contents.interface name) := by
    intro name hmem
    simp +decide [Contents.interface, Piece.bare, Role.piece, hinterfaces name hmem]
  have hparts : ∀ part ∈ Contents.parts file, ∀ line ∈ part, Line.EscapeFree line := by
    simp only [Contents.parts, List.forall_mem_cons, List.forall_mem_map, List.forall_mem_flatMap]
    refine ⟨hhead, Contents.escapeFree_pool hpool,
      ⟨Contents.escapeFree_access (by decide) _, List.forall_mem_nil _⟩,
      ⟨hheading _ (by decide), hinterface⟩,
      ⟨hheading _ (by decide), fun field hfield =>
        Contents.escapeFree_member (hfields field hfield)⟩,
      ⟨hheading _ (by decide), fun method hmethod =>
        Contents.escapeFree_member (hmethods method hmethod)⟩,
      ⟨hheading _ (by decide), Contents.escapeFree_attributes (by decide) hattributes⟩,
      List.forall_mem_nil _⟩
  intro line hline
  rcases mem_of_mem_intercalate hline with hgap | ⟨part, hpart, hline⟩
  · rw [List.mem_singleton.mp hgap]
    exact Line.escapeFree_nil
  · exact hparts part hpart line hline

/-- The outline of a class shows nothing from outside but its name. -/
lemma escapeFree_outline (h : EscapeFree file.name) :
    ∀ line ∈ Outline.lines file, Line.EscapeFree line := by
  have hpackage : ∀ line ∈ Outline.package file, Line.EscapeFree line := by
    unfold Outline.package
    split
    · next package heq =>
      have hdotted := InternalName.escapeFree_dotted (InternalName.escapeFree_package? h heq)
      simp +decide [Piece.bare, hdotted]
    · exact List.forall_mem_nil _
  have hmodifiers : Line.EscapeFree (Outline.modifiers file) := by
    rw [Line.EscapeFree, Outline.modifiers, List.forall_mem_flatMap]
    intro flag _
    simp +decide [Piece.bare, Role.piece]
  have hkeyword : Line.EscapeFree (Outline.keyword file) := by
    unfold Outline.keyword
    split <;> simp +decide [Piece.bare]
  have hname : Line.EscapeFree (Outline.name file) := by
    have hsimple : EscapeFree file.simpleName := InternalName.escapeFree_simpleName h
    simp +decide [Outline.name, Piece.bare, Role.piece, hsimple]
  rw [Outline.lines, List.cons_append, List.forall_mem_cons, List.forall_mem_append,
    List.forall_mem_cons]
  refine ⟨by simp +decide [Role.piece], hpackage, ?_,
    by simp +decide [Outline.body, Piece.bare, Role.piece]⟩
  simp [Outline.declaration, hmodifiers, hkeyword, hname]

/-- **A view brings no escapes of its own.** -/
theorem escapeFree_viewLines (view : View) (h : ∀ text ∈ file.texts, EscapeFree text) :
    ∀ line ∈ file.viewLines view, Line.EscapeFree line := by
  cases view with
  | contents => exact escapeFree_contents h
  | outline => exact escapeFree_outline (h _ List.mem_cons_self)

end ClassFile

/-! ## Runs -/

namespace Invocation

variable {file : ClassFile}

/-- A run shows the view that was asked for. -/
lemma render_eq_shown (invocation : Invocation) (file : ClassFile) :
    invocation.render file = file.shown invocation.palette invocation.view := by
  rw [render]
  cases invocation.view <;> rfl

/-- A step that is done leaves the rest to do from where it ends. -/
lemma run_bind_of_run {σ α β : Type} {step : StateM σ α} {next : α → StateM σ β} {s s' : σ} {a : α}
    (h : step.run s = (a, s')) : (step >>= next).run s = (next a).run s' := by
  rw [StateT.run_bind, h]
  rfl

/-- A run writes the view to the file that was named. -/
lemma run_eq_written {invocation : Invocation} {path : String} {folder written : Folder}
    {content : Bytes} (hpath : invocation.output = some path)
    (hread : folder.read invocation.input = .ok content)
    (hfile : (ClassFile.reader invocation.options (.ofBytes content)).result = .ok file)
    (hwrite : folder.write path (invocation.render file).toUTF8.toList = .ok written) :
    ((invocation.run Folder.store).run folder).2 = written := by
  obtain ⟨log, hview⟩ : ∃ log, invocation.view? content = (log, .ok (invocation.render file)) := by
    simp only [view?, hfile]
    exact ⟨_, rfl⟩
  have hreads : (Folder.store.read invocation.input).run folder = (.ok content, folder) := by
    rw [← hread]
    rfl
  have hwrites : (Folder.store.write path (invocation.render file)).run folder =
      (.ok (), written) := by
    simp only [Folder.store, StateT.run_bind, StateT.run_get, pure_bind, hwrite]
    rfl
  rw [run, run_bind_of_run hreads]
  simp only [hview, hpath]
  rw [run_bind_of_run hwrites]
  rfl

end Invocation

namespace ClassFile

/-- **Colour only adds escape codes.** The plain and the coloured text of a view can be cut into the
same pieces, each of which is painted or the same. If no text of the class file has escapes, the
coloured view without its escape sequences is the plain one. Whatever is asked for, a run that
writes a file writes the plain view.

**Proof sketch.** Both texts are made of one list of lines, which the palette has no part in, so
they have the same pieces. Of the pieces of a view, those that are not texts of the class file are
words of the program, numbers and digits of bytes, and none of these has an escape. -/
theorem shown_coloured (file : ClassFile) (view : View) :
    (∃ texts painted, String.join texts = file.shown .plain view ∧
      String.join painted = file.shown .coloured view ∧ List.Forall₂ Painted texts painted) ∧
    ((∀ text ∈ file.texts, EscapeFree text) →
      withoutSequences (file.shown .coloured view).toList = (file.shown .plain view).toList) ∧
    ∀ (invocation : Invocation) (path : String), invocation.view = view →
      invocation.output = some path →
      invocation.render file = file.shown .plain view ∧
      ∀ (folder written : Folder) (content : Bytes), folder.read invocation.input = .ok content →
        (reader invocation.options (.ofBytes content)).result = .ok file →
        folder.write path (file.shown .plain view).toUTF8.toList = .ok written →
        ((invocation.run Folder.store).run folder).2 = written := by
  refine ⟨?_, fun h => ?_, ?_⟩
  · simp only [shown_eq_render, render_eq_join]
    exact ⟨_, _, rfl, rfl, forall₂_painted _⟩
  · rw [shown_eq_render, shown_eq_render, withoutSequences_render (escapeFree_viewLines view h)]
  · rintro invocation path rfl hpath
    have hrender : invocation.render file = file.shown .plain invocation.view := by
      rw [Invocation.render_eq_shown, Invocation.palette, hpath, Option.isNone_some, Bool.and_false]
      rfl
    refine ⟨hrender, fun folder written content hread hfile hwrite => ?_⟩
    rw [← hrender] at hwrite
    exact Invocation.run_eq_written hpath hread hfile hwrite

/-- A run on a class file with nested bodies, for which colour and an output file were asked. -/
def colouredRun : Invocation where
  verbosity := 0
  colour := true
  options := {}
  view := .contents
  input := "A.class"
  output := some "A.txt"

/-- A folder with just that class file. -/
def bodiesFolder : Folder where
  files := [("A.class", nestedBodies [0, 0, 0xB1])]

/-- The listing of a class file with nested bodies, with colour on a screen and without in a file.
-/
theorem shown_coloured_nestedBodies :
    ∃ file, decode (nestedBodies [0, 0, 0xB1]) {} = .ok file ∧
      (∀ text ∈ file.texts, EscapeFree text) ∧
      withoutSequences (file.shown .coloured .contents).toList =
        (file.shown .plain .contents).toList ∧
      ((colouredRun.run Folder.store).run bodiesFolder).2 =
        bodiesFolder.insert "A.txt" (file.shown .plain .contents).toUTF8.toList := by
  have htexts : (decode (nestedBodies [0, 0, 0xB1]) {}).toOption.map texts =
      some ["A", "java/lang/Object", "A", "()V", "Code", "A", "()V", "Code"] := by decide +kernel
  cases hfile : decode (nestedBodies [0, 0, 0xB1]) {} with
  | error fault =>
    rw [hfile] at htexts
    cases htexts
  | ok file =>
    rw [hfile] at htexts
    have hfree : ∀ text ∈ file.texts, EscapeFree text := by
      rw [Option.some.inj htexts]
      decide
    obtain ⟨-, hwithout, hrun⟩ := shown_coloured file .contents
    refine ⟨file, rfl, hfree, hwithout hfree, ?_⟩
    exact (hrun colouredRun "A.txt" rfl rfl).2 bodiesFolder _ _ rfl hfile rfl

end ClassFile

end ClassFormat
