set_option autoImplicit false

/-! # Documents and their layout

A document (`Doc`) is made of words, gaps and groups. A gap is a place where a line may end; a
group decides over its own gaps. `render` prints a document on lines of at most `lineWidth` bytes
where it can:

* a group that fits, up to the next gap after it, is printed on one line;
* in a group that does not fit, every gap ends the line if the group is *consistent*, and
  otherwise just the gaps whose next piece does not fit;
* a group shifts the margin of the lines it ends, a gap shifts the margin of its own new line.

All text of the words is printed, in order; the layout adds blanks and newlines, and marks such as
commas and braces where a gap asks for one if the line ends there, or if it does not. -/

namespace Fieldwise.Layout

/-- The number of bytes on a line. -/
def lineWidth : Int := 89

/-- The least number of bytes a line has room for, however far it is indented. -/
def leastRoom : Int := 60

/-- One step of indentation. -/
def indentStep : Int := 4

/-- How a group that does not fit ends its lines. -/
inductive Breaks
  | consistent
  | inconsistent
  deriving DecidableEq, Repr

/-- When a gap ends the line, whatever fits. -/
inductive Force
  | always
  | never
  deriving DecidableEq, Repr

/-- A place where a line may end. On one line it is `blanks` spaces wide. If the line ends there,
`before` is written at its end and `after` at the start of the new line, whose margin `shift`
moves; if not, `inline` is written. A gap that is `optional` vanishes at the end of a group. -/
structure Gap where
  blanks : Nat := 0
  force : Option Force := none
  shift : Int := 0
  before : Option Char := none
  after : String := ""
  inline : Option Char := none
  optional : Bool := false
  deriving DecidableEq, Repr

/-- A document. -/
inductive Doc
  | empty
  | text (words : String)
  | space (g : Gap)
  | cat (first second : Doc)
  | box (breaks : Breaks) (shift : Int) (content : Doc)
  /-- Something too wide for any line, of which nothing is seen. -/
  | wall
  /-- Something that cannot be printed. -/
  | hole
  deriving Repr

namespace Doc

/-! ## Making documents -/

/-- A document of one word. -/
def word (text : String) : Doc := .text text

/-- A document of one gap. -/
def gap (g : Gap) : Doc := .space g

/-- One document after another. -/
def append : Doc → Doc → Doc
  | .empty, d => d
  | d, .empty => d
  | d, e => .cat d e

instance : Append Doc := ⟨append⟩

/-- Documents one after another. -/
def concat : List Doc → Doc
  | [] => .empty
  | d :: rest => d ++ concat rest

/-- Whether a document has no pieces. -/
def isEmpty : Doc → Bool
  | .empty => true
  | _ => false

/-- A document without the optional gap at its end. -/
def dropOptional : Doc → Doc
  | .space g => if g.optional then .empty else .space g
  | .cat d e => d ++ dropOptional e
  | d => d

/-- A group. One that holds nothing but a gap is nothing. -/
def group (breaks : Breaks) (shift : Int) : Doc → Doc
  | .space _ => .empty
  | content => .box breaks shift content.dropOptional

/-- A group in which every gap ends the line if it does not fit. -/
def stack (shift : Int) (content : Doc) : Doc := group .consistent shift content

/-- A group that fills its lines if it does not fit on one. -/
def fill (shift : Int) (content : Doc) : Doc := group .inconsistent shift content

/-- A document whose last gap shifts the margin by so much more. -/
def shiftLast (shift : Int) : Doc → Doc
  | .space g => .space { g with shift := g.shift + shift }
  | .cat d e => .cat d (shiftLast shift e)
  | d => d

/-- A document whose last gap goes back one step. -/
def outdentLast (d : Doc) : Doc := d.shiftLast (-indentStep)

/-- A document with another inside of the groups it begins with, so many of them deep. -/
def insertInside (front : Doc) : Nat → Doc → Doc
  | 0, d => front ++ d
  | n + 1, .box breaks shift content => .box breaks shift (insertInside front n content)
  | n, .cat d e => .cat (insertInside front n d) e
  | _, d => front ++ d

/-! ## Gaps -/

/-- A gap without width. -/
def zeroGap : Doc := gap {}

/-- A gap of one blank. -/
def spaceGap : Doc := gap { blanks := 1 }

/-- A gap of one blank that vanishes at the end of a group. -/
def optionalSpace : Doc := gap { blanks := 1, optional := true }

/-- A gap at which no line ends. -/
def noGap : Doc := gap { force := some .never }

/-- A line end. -/
def lineEnd : Doc := gap { force := some .always }

/-- A line end that vanishes at the end of a group. -/
def optionalLineEnd : Doc := gap { force := some .always, optional := true }

/-- The gap after the last item of a list, with a comma if the line ends. -/
def lastComma : Doc := gap { before := some ',' }

/-- The same with a blank if the line does not end. -/
def lastCommaOrSpace : Doc := gap { blanks := 1, before := some ',' }

/-! ## Lists -/

/-- Documents with another between any two. -/
def separated (separator : Doc) : List Doc → Doc
  | [] => .empty
  | [d] => d
  | d :: rest => d ++ separator ++ separated separator rest

/-- Items with a comma and a gap after each but the last, which `last` follows. -/
def commaItems (last : Doc) : List Doc → Doc
  | [] => .empty
  | [d] => d ++ last
  | d :: rest => d ++ word "," ++ spaceGap ++ commaItems last rest

/-- Items between brackets: all on one line, or each on a line of its own with a comma. -/
def bracketed (opening closing : String) (items : List Doc) : Doc :=
  word opening ++ stack indentStep (zeroGap ++ commaItems lastComma items).outdentLast
    ++ word closing

/-- Items between parentheses, with a comma even after a single one. -/
def tupled (items : List Doc) : Doc :=
  match items with
  | [d] =>
    word "(" ++ stack indentStep (zeroGap ++ d ++ word "," ++ zeroGap).outdentLast ++ word ")"
  | items => bracketed "(" ")" items

/-- The first of some documents after one word and a blank, the others after gaps and another
word, as bounds are written. -/
def introduced (first : Doc) (between : Doc) : List Doc → Doc
  | [] => .empty
  | d :: rest => first ++ d ++ concat (rest.map fun e => between ++ e)

end Doc

/-! ## Pieces -/

/-- A piece of a document. -/
inductive Piece
  | word (text : String)
  | gap (g : Gap)
  | enter (breaks : Breaks) (shift : Int)
  | leave
  | wall
  deriving DecidableEq, Repr

namespace Doc

/-- The pieces of a document, before others. -/
def piecesBefore : Doc → List Piece → List Piece
  | .empty, rest => rest
  | .text words, rest => .word words :: rest
  | .space g, rest => .gap g :: rest
  | .cat d e, rest => piecesBefore d (piecesBefore e rest)
  | .box breaks shift content, rest => .enter breaks shift :: piecesBefore content (.leave :: rest)
  | .wall, rest => .wall :: rest
  | .hole, rest => rest

/-- The pieces of a document. -/
def pieces (d : Doc) : List Piece := d.piecesBefore []

/-- Whether all of a document can be printed. -/
def printable : Doc → Bool
  | .hole => false
  | .cat d e => printable d && printable e
  | .box _ _ content => printable content
  | _ => true

/-- The pieces of one document after another are their pieces. -/
theorem piecesBefore_append (d e : Doc) (rest : List Piece) :
    (d ++ e).piecesBefore rest = d.piecesBefore (e.piecesBefore rest) := by
  change (append d e).piecesBefore rest = _
  unfold append
  split <;> rfl

end Doc

/-! ## Widths -/

/-- A width beyond that of any line. -/
def endlessWidth : Nat := 0xffff

/-- The width of a gap on one line. -/
def Gap.width (g : Gap) : Nat :=
  if g.force = some .always then endlessWidth else g.blanks

/-- The width of pieces up to the first gap outside of the groups they open; the gaps inside those
count as blanks. `depth` of them are open. -/
def widthToGap : Nat → List Piece → Nat
  | _, [] => 0
  | depth, .word text :: rest => text.utf8ByteSize + widthToGap depth rest
  | depth, .wall :: rest => endlessWidth + widthToGap depth rest
  | depth, .enter _ _ :: rest => widthToGap (depth + 1) rest
  | 0, .leave :: rest => widthToGap 0 rest
  | depth + 1, .leave :: rest => widthToGap depth rest
  | 0, .gap _ :: _ => 0
  | depth + 1, .gap g :: rest => g.width + widthToGap (depth + 1) rest

/-- The width of a document on one line. -/
def Doc.width : Doc → Nat
  | .text words => words.utf8ByteSize
  | .space g => g.width
  | .cat d e => d.width + e.width
  | .box _ _ content => content.width
  | .wall => endlessWidth
  | .empty | .hole => 0

/-- A group that is not printed on one line if it is wider than that. -/
def Doc.stackWithin (limit : Nat) (shift : Int) (content : Doc) : Doc :=
  if limit < content.width then stack shift (content ++ .wall) else stack shift content

/-! ## Printing -/

/-- A group that is being printed: on one line, or on several from a margin to return to. -/
inductive Frame
  | fits
  | broken (margin : Int) (breaks : Breaks)
  deriving DecidableEq, Repr

/-- The state of the printer: the room left on the line, the margin, the blanks owed before the
next word, and the groups that are open, innermost first. -/
structure Printer where
  room : Int := lineWidth
  margin : Int := 0
  owed : Nat := 0
  frames : List Frame := []

namespace Printer

/-- Blanks. -/
def blanks (n : Nat) : List Char := List.replicate n ' '

/-- Whether a gap whose next piece ends after `width` bytes stays on the line. -/
def stays (p : Printer) (g : Gap) (width : Nat) : Bool :=
  match g.force with
  | some .never => true
  | some .always => false
  | none =>
    match p.frames with
    | .fits :: _ => true
    | .broken _ .consistent :: _ => false
    | .broken _ .inconsistent :: _ | [] => (width : Int) ≤ p.room

/-- The printer at the start of a new line after a gap. -/
def newLine (p : Printer) (g : Gap) : Printer :=
  let margin := p.margin + g.shift
  let room := max (lineWidth - margin) leastRoom
  if g.after = "" then { p with room, owed := margin.toNat }
  else { p with room := room - g.after.utf8ByteSize, owed := 0 }

/-- What a gap that ends the line writes: at the end of the line, the newline, and at the start of
the new line. -/
def lineBreak (p : Printer) (g : Gap) : List Char :=
  (match g.before with
    | some c => blanks p.owed ++ [c]
    | none => []) ++ '\n' ::
    (if g.after = "" then [] else blanks (p.margin + g.shift).toNat ++ g.after.toList)

/-- Prints pieces. -/
def run (p : Printer) : List Piece → List Char
  | [] => []
  | .word text :: rest =>
    blanks p.owed ++ text.toList ++
      run { p with room := p.room - text.utf8ByteSize, owed := 0 } rest
  | .wall :: rest => run p rest
  | .enter breaks shift :: rest =>
    if (widthToGap 1 rest : Int) > p.room then
      run { p with
        margin := p.margin + shift
        frames := .broken p.margin breaks :: p.frames } rest
    else run { p with frames := .fits :: p.frames } rest
  | .leave :: rest =>
    match p.frames with
    | .broken margin _ :: outer => run { p with margin, frames := outer } rest
    | .fits :: outer => run { p with frames := outer } rest
    | [] => run p rest
  | .gap g :: rest =>
    if p.stays g (g.width + widthToGap 0 rest) then
      match g.inline with
      | some c => c :: run { p with room := p.room - g.blanks - 1, owed := p.owed + g.blanks } rest
      | none => run { p with room := p.room - g.blanks, owed := p.owed + g.blanks } rest
    else p.lineBreak g ++ run (p.newLine g) rest

end Printer

/-- The text of a document. -/
def render (doc : Doc) : String :=
  String.ofList (Printer.run {} doc.pieces)

end Fieldwise.Layout
