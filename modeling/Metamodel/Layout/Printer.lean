/-!
A streaming line breaker for program text, in the manner of Oppen's pretty printer.

A document is a stream of commands: words, breaks and boxes. A box groups what lies between
its start and its end; when its whole content fits in the room left on the line, every break
inside it is written as blanks, otherwise its breaks become line ends. In a consistent box
all breaks of the box end lines once it does not fit; in an inconsistent box each break
ends a line only when the text up to the next break would not fit.

The breaker reads the stream once and holds back what it has not decided yet. The size of a
box is the length of the text from its start to the first break after its end; the size of
a break is the length of the text up to the next break of its box or of an enclosing one.
Sizes are known only once that text has been read, so pending pieces wait in a buffer; as
soon as the buffered text is wider than the room on the line, the oldest pending piece is
decided as too wide. Lengths are counted in UTF-8 bytes.

Lines aim at a margin of 89 columns; a broken line keeps at least 60 columns of room. A
break can carry a character written before the line end (a trailing comma that appears only
when the list is broken), and a break of infinite width always ends its line.
-/

namespace Metamodel.Layout

/-- The column lines aim to stay within. -/
def margin : Int := 89

/-- The least room a broken line is given, however deep its indentation. -/
def minSpace : Int := 60

/-- One level of indentation. -/
def indentStep : Int := 4

/-- The width that never fits. -/
def sizeInfinity : Int := 0xffff

/-- How the breaks of a box that does not fit are taken. -/
inductive Breaks where
  /-- Every break of the box ends a line. -/
  | consistent
  /-- A break ends a line only when what follows it up to the next break does not fit. -/
  | inconsistent
deriving DecidableEq, Repr, Inhabited

/-- A possible line end. -/
structure BreakSpec where
  /-- Added to the box's indentation for the line that the break starts. -/
  offset : Int := 0
  /-- Blanks written when the break does not end a line. -/
  blankSpace : Nat := 0
  /-- Written before the line end when the break ends a line. -/
  preBreak : Option Char := none
  /-- Written at the start of the new line when the break ends a line. -/
  postBreak : String := ""
  /-- Written when the break does not end a line. -/
  noBreak : Option Char := none
  /-- Dropped when it is the last thing in its box. -/
  ifNonempty : Bool := false
  /-- Never ends a line. -/
  neverBreak : Bool := false
deriving Repr, Inhabited

/-- A command of a document. -/
inductive Command where
  /-- Text written as it is. -/
  | text (value : String)
  /-- A possible line end. -/
  | brk (spec : BreakSpec)
  /-- Opens a box whose broken lines are indented by `offset` more. -/
  | boxStart (offset : Int) (breaks : Breaks)
  /-- Closes the innermost open box. -/
  | boxEnd
  /-- Adds to the offset of the break just read. -/
  | shift (offset : Int)
  /-- Closes the innermost open box, forcing it to break when its content read so far is
  wider than `max`. -/
  | boxEndWithin (max : Int)
deriving Repr, Inhabited

/-- A document: commands in order. -/
abbrev Doc := List Command

/-- A piece waiting in the buffer. -/
inductive Piece where
  | text (value : String)
  | brk (spec : BreakSpec)
  | boxStart (offset : Int) (breaks : Breaks)
  | boxEnd
deriving Repr, Inhabited

/-- A buffered piece with its size, negative while unknown. -/
structure Entry where
  piece : Piece
  size : Int
deriving Repr, Inhabited

/-- How an open box is being written. -/
inductive Frame where
  /-- It fits on the line. -/
  | fits (breaks : Breaks)
  /-- It does not fit; `indent` is the indentation to restore at its end. -/
  | broken (indent : Nat) (breaks : Breaks)
deriving Repr, Inhabited

/-- The state of the line breaker. -/
structure Printer where
  out : String := ""
  /-- Room left on the current line. -/
  space : Int := margin
  /-- Pending pieces, oldest first. -/
  buffer : List Entry := []
  /-- The stream position of the oldest pending piece. -/
  first : Nat := 0
  /-- Width of everything written. -/
  leftTotal : Int := 0
  /-- Width of everything read. -/
  rightTotal : Int := 0
  /-- Stream positions of the open boxes and undecided breaks in the buffer, newest first. -/
  scanStack : List Nat := []
  /-- The boxes being written, innermost first. -/
  printStack : List Frame := []
  indent : Nat := 0
  /-- Indentation still to write before the next text, so no line ends in blanks. -/
  pendingIndentation : Nat := 0
deriving Inhabited

namespace Printer

/-- Appends a piece to the buffer; gives its stream position. -/
def push (p : Printer) (e : Entry) : Printer × Nat :=
  ({ p with buffer := p.buffer ++ [e] }, p.first + p.buffer.length)

/-- The buffered piece at a stream position. -/
def entryAt? (p : Printer) (index : Nat) : Option Entry :=
  if index < p.first then none else p.buffer[index - p.first]?

/-- Changes the size of the buffered piece at a stream position. -/
def setSize (p : Printer) (index : Nat) (f : Int → Int) : Printer :=
  if index < p.first then p
  else { p with buffer := p.buffer.modify (index - p.first) fun e => { e with size := f e.size } }

/-- Writes the pending indentation. -/
def printIndent (p : Printer) : Printer :=
  { p with out := p.out.pushn ' ' p.pendingIndentation, pendingIndentation := 0 }

/-- Writes text. -/
def printString (p : Printer) (s : String) : Printer :=
  let p := p.printIndent
  { p with out := p.out ++ s, space := p.space - s.utf8ByteSize }

/-- Opens a box of the given size: broken, with more indentation, when it does not fit. -/
def printBegin (p : Printer) (offset : Int) (breaks : Breaks) (size : Int) : Printer :=
  if size > p.space then
    { p with printStack := .broken p.indent breaks :: p.printStack,
             indent := (p.indent + offset).toNat }
  else { p with printStack := .fits breaks :: p.printStack }

/-- Closes the innermost box, restoring the indentation of a broken one. -/
def printEnd (p : Printer) : Printer :=
  match p.printStack with
  | .broken indent _ :: rest => { p with printStack := rest, indent := indent }
  | .fits _ :: rest => { p with printStack := rest }
  | [] => p

/-- Writes a break of the given size: blanks if it fits, else a line end. -/
def printBreak (p : Printer) (b : BreakSpec) (size : Int) : Printer :=
  let top := p.printStack.headD (.broken 0 .inconsistent)
  let fits := b.neverBreak || match top with
    | .fits _ => true
    | .broken _ .consistent => false
    | .broken _ .inconsistent => decide (size ≤ p.space)
  if fits then
    let p := { p with pendingIndentation := p.pendingIndentation + b.blankSpace,
                      space := p.space - b.blankSpace }
    match b.noBreak with
    | some c => { p with out := p.out.push c, space := p.space - c.utf8Size }
    | none => p
  else
    let p := match b.preBreak with
      | some c =>
        let p := p.printIndent
        { p with out := p.out.push c }
      | none => p
    let indent := (p.indent : Int) + b.offset
    let p := { p with out := p.out.push '\n', pendingIndentation := indent.toNat,
                      space := max (margin - indent) minSpace }
    if b.postBreak.isEmpty then p
    else
      let p := p.printIndent
      { p with out := p.out ++ b.postBreak, space := p.space - b.postBreak.utf8ByteSize }

/-- Writes one piece whose size is known. -/
def printEntry (p : Printer) (e : Entry) : Printer :=
  match e.piece with
  | .text s => { p with leftTotal := p.leftTotal + e.size }.printString s
  | .brk b => { p with leftTotal := p.leftTotal + b.blankSpace }.printBreak b e.size
  | .boxStart offset breaks => p.printBegin offset breaks e.size
  | .boxEnd => p.printEnd

/-- Writes the oldest pending pieces for as long as their sizes are known. -/
def advanceLeft (p : Printer) : Printer :=
  go p p.buffer
where
  /-- Writes from the given pending pieces. -/
  go (p : Printer) : List Entry → Printer
    | [] => { p with buffer := [] }
    | e :: rest =>
      if e.size ≥ 0 then go ({ p with first := p.first + 1 }.printEntry e) rest
      else { p with buffer := e :: rest }

/-- Settles sizes from the newest open piece down: closed boxes and the breaks in them, and
the newest break of the current box when `depth` is zero. -/
def checkStack (p : Printer) (depth : Nat) : Printer :=
  go p depth p.scanStack
where
  /-- Settles from the given open pieces, newest first. -/
  go (p : Printer) (depth : Nat) : List Nat → Printer
    | [] => { p with scanStack := [] }
    | index :: below =>
      match p.entryAt? index with
      | some ⟨.boxStart .., _⟩ =>
        if depth == 0 then { p with scanStack := index :: below }
        else go (p.setSize index (· + p.rightTotal)) (depth - 1) below
      | some ⟨.boxEnd, _⟩ => go (p.setSize index fun _ => 1) (depth + 1) below
      | some ⟨.brk _, _⟩ =>
        let p := p.setSize index (· + p.rightTotal)
        if depth == 0 then { p with scanStack := below } else go p depth below
      | _ => { p with scanStack := index :: below }

/-- While the pending text is wider than the line's room, decides the oldest pending piece
as too wide and writes what can be written; `fuel` bounds the rounds, each of which writes
at least one piece. -/
def checkStreamWith : Nat → Printer → Printer
  | 0, p => p
  | fuel + 1, p =>
    if p.rightTotal - p.leftTotal > p.space then
      let p := match p.scanStack.getLast? with
        | some oldest =>
          if oldest == p.first then
            { p.setSize oldest (fun _ => sizeInfinity) with scanStack := p.scanStack.dropLast }
          else p
        | none => p
      let p := p.advanceLeft
      if p.buffer.isEmpty then p else checkStreamWith fuel p
    else p

/-- Writes what the pending text forces to be decided. -/
def checkStream (p : Printer) : Printer := checkStreamWith (p.buffer.length + 1) p

/-- Starts afresh when nothing is pending. -/
def restartIfIdle (p : Printer) : Printer :=
  if p.scanStack.isEmpty then { p with leftTotal := 1, rightTotal := 1, buffer := [] } else p

/-- Reads the start of a box. -/
def scanBegin (p : Printer) (offset : Int) (breaks : Breaks) : Printer :=
  let p := p.restartIfIdle
  let (p, index) := p.push ⟨.boxStart offset breaks, -p.rightTotal⟩
  { p with scanStack := index :: p.scanStack }

/-- Buffers the end of a box. -/
def pushEnd (p : Printer) : Printer :=
  let (p, index) := p.push ⟨.boxEnd, -1⟩
  { p with scanStack := index :: p.scanStack }

/-- Reads the end of a box. A box holding nothing but one break vanishes, and a break that
is dropped when last is dropped. -/
def scanEnd (p : Printer) : Printer :=
  if p.scanStack.isEmpty then p.printEnd
  else
    match p.buffer.getLast? with
    | some ⟨.brk b, _⟩ =>
      let afterBegin := match p.buffer.dropLast.getLast? with
        | some ⟨.boxStart .., _⟩ => true
        | _ => false
      if afterBegin then
        { p with buffer := p.buffer.dropLast.dropLast, scanStack := p.scanStack.drop 2,
                 rightTotal := p.rightTotal - b.blankSpace }
      else if b.ifNonempty then
        pushEnd { p with buffer := p.buffer.dropLast, scanStack := p.scanStack.drop 1,
                         rightTotal := p.rightTotal - b.blankSpace }
      else p.pushEnd
    | _ => p.pushEnd

/-- Reads a break. -/
def scanBreak (p : Printer) (b : BreakSpec) : Printer :=
  let p := if p.scanStack.isEmpty then p.restartIfIdle else p.checkStack 0
  let (p, index) := p.push ⟨.brk b, -p.rightTotal⟩
  { p with scanStack := index :: p.scanStack, rightTotal := p.rightTotal + b.blankSpace }

/-- Reads text. -/
def scanString (p : Printer) (s : String) : Printer :=
  if p.scanStack.isEmpty then p.printString s
  else
    let len : Int := s.utf8ByteSize
    let (p, _) := p.push ⟨.text s, len⟩
    { p with rightTotal := p.rightTotal + len }.checkStream

/-- Adds to the offset of the newest buffered break. -/
def shift (p : Printer) (offset : Int) : Printer :=
  match p.buffer.getLast? with
  | some ⟨.brk b, size⟩ =>
    { p with buffer := p.buffer.dropLast ++ [⟨.brk { b with offset := b.offset + offset }, size⟩] }
  | _ => p

/-- Reads the end of a box, first making it too wide to fit when its content read so far is
wider than `max`. -/
def scanEndWithin (p : Printer) (max : Int) : Printer :=
  (go p 1 p.scanStack).scanEnd
where
  /-- Finds the innermost open box among the open pieces, newest first. -/
  go (p : Printer) (depth : Nat) : List Nat → Printer
    | [] => p
    | index :: below =>
      match p.entryAt? index with
      | some ⟨.boxStart .., size⟩ =>
        if depth ≤ 1 then
          if size < 0 && size + p.rightTotal > max then
            let (p, _) := p.push ⟨.text "", sizeInfinity⟩
            { p with rightTotal := p.rightTotal + sizeInfinity }
          else p
        else go p (depth - 1) below
      | some ⟨.boxEnd, _⟩ => go p (depth + 1) below
      | _ => go p depth below

/-- Reads one command. -/
def apply (p : Printer) : Command → Printer
  | .text s => p.scanString s
  | .brk b => p.scanBreak b
  | .boxStart offset breaks => p.scanBegin offset breaks
  | .boxEnd => p.scanEnd
  | .shift offset => p.shift offset
  | .boxEndWithin max => p.scanEndWithin max

/-- Ends the stream: settles and writes everything pending, and gives the text. -/
def finish (p : Printer) : String :=
  if p.scanStack.isEmpty then p.out else (p.checkStack 0).advanceLeft.out

end Printer

/-- The text of a document. -/
def Doc.render (d : Doc) : String := (d.foldl Printer.apply {}).finish

/-- Text. -/
def word (s : String) : Doc := [.text s]

/-- Opens an inconsistent box. -/
def ibox (offset : Int) : Doc := [.boxStart offset .inconsistent]

/-- Opens a consistent box. -/
def cbox (offset : Int) : Doc := [.boxStart offset .consistent]

/-- Closes the innermost box. -/
def close : Doc := [.boxEnd]

/-- Closes the innermost box, breaking it when its content is wider than `max`. -/
def closeWithin (max : Int) : Doc := [.boxEndWithin max]

/-- Adds to the offset of the break just written. -/
def offset (n : Int) : Doc := [.shift n]

/-- A break of `n` blanks. -/
def blanks (n : Nat) : Doc := [.brk { blankSpace := n }]

/-- A break written as nothing. -/
def zerobreak : Doc := blanks 0

/-- A break written as one blank. -/
def space : Doc := blanks 1

/-- A blank that never ends a line. -/
def nbsp : Doc := word " "

/-- A line end. -/
def hardbreak : Doc := [.brk { blankSpace := sizeInfinity.toNat }]

/-- A blank that is dropped when it is last in its box. -/
def spaceIfNonempty : Doc := [.brk { blankSpace := 1, ifNonempty := true }]

/-- A line end that is dropped when it is last in its box. -/
def hardbreakIfNonempty : Doc := [.brk { blankSpace := sizeInfinity.toNat, ifNonempty := true }]

/-- The separator after an item of a list: for the last item, a comma that appears only
when the list is broken; otherwise a comma and a break. -/
def trailingComma (isLast : Bool) : Doc :=
  if isLast then [.brk { preBreak := some ',' }] else word "," ++ space

/-- Like `trailingComma`, but the last item's break is a blank when it fits. -/
def trailingCommaOrSpace (isLast : Bool) : Doc :=
  if isLast then [.brk { blankSpace := 1, preBreak := some ',' }] else word "," ++ space

/-- A break that never ends a line. -/
def neverbreak : Doc := [.brk { neverBreak := true }]

end Metamodel.Layout
