import Modbus.Document.Yaml.Token

/-!
# Layout

The layout of a text makes up its tokens.  Indentation opens and closes
collections; and whether a node is a key shows only at the colon behind it, so
the places where a key may begin are kept until then.  Such a key has to be in
one line and must not be longer than 1024 octets.
-/

namespace Modbus.Document.Yaml

/-- A place where a key may begin. -/
structure KeyPlace where
  /-- How many tokens are in front. -/
  count : Nat
  /-- Whether a key has to stand there. -/
  isRequired : Bool
  cursor : Cursor
  deriving DecidableEq, Repr, Inhabited

namespace KeyPlace

/-- How many octets a key may have. -/
def most : Nat := 1024

/-- Whether a key that begins at a place would be too long by now. -/
def isPassed (place : KeyPlace) (cursor : Cursor) : Bool :=
  place.cursor.line < cursor.line || place.cursor.index + most < cursor.index

end KeyPlace

/-- How far the layout of a text is read. -/
structure Layout where
  cursor : Cursor
  tokens : Array Token
  /-- The columns of the collections that are written by indentation, the inner ones first. -/
  indents : List Nat
  /-- The place where a key may have begun. -/
  place : Option KeyPlace
  /-- The same for what is around each collection in a row, the inner ones first. -/
  outer : List (Option KeyPlace)
  /-- Whether a key may begin here. -/
  admitsKey : Bool
  /-- The numbers of the names that nodes have, the last ones first. -/
  names : List (String × Nat)
  deriving Repr, Inhabited

namespace Layout

/-- The layout of a text of which nothing is read. -/
def start (text : List Char) : Layout := ⟨.start text, #[], [], none, [], true, []⟩

/-- Whether the cursor is in a collection in a row. -/
def inFlow (layout : Layout) : Bool := !layout.outer.isEmpty

/-- The least column of lines that belong to the innermost collection. -/
def margin (layout : Layout) : Nat :=
  match layout.indents with
  | [] => 0
  | indent :: _ => indent + 1

def put (layout : Layout) (token : Token) : Layout :=
  { layout with tokens := layout.tokens.push token }

def putTo (layout : Layout) (token : Token) (behind : Cursor) : Layout :=
  { layout.put token with cursor := behind }

/-- Sets whether a key may begin. -/
def admitting (layout : Layout) (admitsKey : Bool) : Layout :=
  { layout with admitsKey := admitsKey }

/-! ## Places of keys -/

/-- A place unless it is passed; it must not be if a key has to stand there. -/
def kept (cursor : Cursor) : Option KeyPlace → Option (Option KeyPlace)
  | none => some none
  | some place =>
    if !place.isPassed cursor then some (some place)
    else if place.isRequired then none
    else some none

def dropPassed (layout : Layout) : Option Layout := do
  let place ← kept layout.cursor layout.place
  let outer ← layout.outer.mapM (kept layout.cursor)
  some { layout with place := place, outer := outer }

def dropPlace (layout : Layout) : Option Layout :=
  if layout.place.any KeyPlace.isRequired then none else some { layout with place := none }

/-- Keeps the place of a key that may begin here. -/
def keepPlace (layout : Layout) : Option Layout :=
  if layout.admitsKey then do
    let layout ← layout.dropPlace
    let isRequired := !layout.inFlow && layout.indents.head? == some layout.cursor.column
    some { layout with place := some ⟨layout.tokens.size, isRequired, layout.cursor⟩ }
  else some layout

/-! ## Indentation -/

/-- Closes the collections that are indented further than a column; without a column, all. -/
def close (column : Option Nat) : List Nat → Array Token → List Nat × Array Token
  | [], tokens => ([], tokens)
  | indent :: indents, tokens =>
    if column.all (· < indent) then close column indents (tokens.push .blockEnd)
    else (indent :: indents, tokens)

/-- Closes the collections that are indented further than a column. -/
def unindent (layout : Layout) (column : Option Nat) : Layout :=
  if layout.inFlow then layout
  else
    let (indents, tokens) := close column layout.indents layout.tokens
    { layout with indents := indents, tokens := tokens }

/-- Opens a collection at a column, unless it is open there already; its token is put behind
so many others. -/
def indent (layout : Layout) (column count : Nat) (token : Token) : Layout :=
  if layout.inFlow || column < layout.margin then layout
  else
    { layout with
      indents := column :: layout.indents
      tokens := layout.tokens.insertIdxIfInBounds count token }

/-- Opens a collection at the cursor. -/
def indentHere (layout : Layout) (token : Token) : Layout :=
  layout.indent layout.cursor.column layout.tokens.size token

/-! ## Marks -/

def separator (layout : Layout) (token : Token) : Option Layout := do
  let layout ← (layout.unindent none).dropPlace
  some ((layout.admitting false).putTo token (layout.cursor.skipMany 3))

def directive (layout : Layout) : Option Layout := do
  let layout ← (layout.unindent none).dropPlace
  let (token, behind) ← Token.directive? layout.cursor
  some ((layout.admitting false).putTo token behind)

/-- The mark that opens a collection in a row. -/
def openFlow (layout : Layout) (token : Token) : Option Layout := do
  let layout ← layout.keepPlace
  let inner := { layout with outer := layout.place :: layout.outer, place := none }
  some ((inner.admitting true).putTo token layout.cursor.skip)

/-- The mark that closes a collection in a row. -/
def closeFlow (layout : Layout) (token : Token) : Option Layout := do
  let layout ← layout.dropPlace
  let around :=
    match layout.outer with
    | [] => layout
    | place :: outer => { layout with outer := outer, place := place }
  some ((around.admitting false).putTo token layout.cursor.skip)

/-- The comma in a collection in a row. -/
def flowEntry (layout : Layout) : Option Layout := do
  let layout ← layout.dropPlace
  some ((layout.admitting true).putTo .flowEntry layout.cursor.skip)

/-- The mark in front of an item. -/
def entry (layout : Layout) : Option Layout := do
  if !layout.inFlow && !layout.admitsKey then none
  else
    let layout ← (layout.indentHere .sequenceStart).dropPlace
    some ((layout.admitting true).putTo .entry layout.cursor.skip)

/-- The mark in front of a key. -/
def key (layout : Layout) : Option Layout := do
  if !layout.inFlow && !layout.admitsKey then none
  else
    let layout ← (layout.indentHere .mappingStart).dropPlace
    some ((layout.admitting (!layout.inFlow)).putTo .key layout.cursor.skip)

/-- The colon behind a key. -/
def value (layout : Layout) : Option Layout :=
  match layout.place with
  | some place =>
    let marked := { layout with
      tokens := layout.tokens.insertIdxIfInBounds place.count .key, place := none }
    let opened := marked.indent place.cursor.column place.count .mappingStart
    some ((opened.admitting false).putTo .value layout.cursor.skip)
  | none =>
    if !layout.inFlow && !layout.admitsKey then none
    else
      let opened := layout.indentHere .mappingStart
      some ((opened.admitting (!layout.inFlow)).putTo .value layout.cursor.skip)

/-! ## Nodes -/

/-- A part of a node that is no block. -/
def part (layout : Layout) (read : Cursor → Option (Token × Cursor)) : Option Layout := do
  let layout ← layout.keepPlace
  let (token, behind) ← read layout.cursor
  some ((layout.admitting false).putTo token behind)

/-- A mark in front of a node, which gets a name.  Its number is how many names there are; a
name that is given again counts once. -/
def anchor (layout : Layout) : Option Layout := do
  let number := (layout.names.map Prod.fst).eraseDups.length
  let (name, behind) ← Token.nodeName? layout.cursor
  let marked ← layout.part fun _ => some (.anchor number, behind)
  some { marked with names := (name, number) :: layout.names }

/-- A mark that stands for the node with the number that a name has. -/
def reference (layout : Layout) : Option Layout := do
  let (name, behind) ← Token.nodeName? layout.cursor
  let number ← layout.names.lookup name
  layout.part fun _ => some (.reference number, behind)

/-- A scalar in quotes. -/
def quoted (layout : Layout) (single : Bool) : Option Layout :=
  layout.part fun cursor =>
    (Yaml.quoted single (cursor.rest.length + 1) cursor.skip).map fun (characters, behind) =>
      (.scalar false characters, behind)

/-- A scalar without quotes. -/
def plain (layout : Layout) : Option Layout := do
  let layout ← layout.keepPlace
  let cursor := layout.cursor
  let found ← Yaml.plain layout.inFlow layout.margin (cursor.rest.length + 1) cursor
  some ((layout.admitting found.endsLine).putTo (.scalar true found.characters) found.behind)

/-- A scalar that is a block. -/
def block (layout : Layout) (literal : Bool) : Option Layout := do
  let layout ← layout.dropPlace
  let (characters, behind) ← Yaml.block literal layout.margin layout.cursor.skip
  some ((layout.admitting true).putTo (.scalar false characters) behind)

def token (layout : Layout) : Option Layout :=
  let cursor := layout.cursor
  let inFlow := layout.inFlow
  if cursor.column = 0 && cursor.rest.head? == some '%' then layout.directive
  else if cursor.isAtMark "---" then layout.separator .documentStart
  else if cursor.isAtMark "..." then layout.separator .documentEnd
  else if startsPlain inFlow cursor.rest then layout.plain
  else
    match cursor.rest with
    | '[' :: _ => layout.openFlow .flowSequenceStart
    | '{' :: _ => layout.openFlow .flowMappingStart
    | ']' :: _ => layout.closeFlow .flowSequenceEnd
    | '}' :: _ => layout.closeFlow .flowMappingEnd
    | ',' :: _ => layout.flowEntry
    | '-' :: _ => layout.entry
    | '?' :: _ => layout.key
    | ':' :: _ => layout.value
    | '*' :: _ => layout.reference
    | '&' :: _ => layout.anchor
    | '!' :: _ => layout.part (Token.tag? inFlow)
    | '|' :: _ => if inFlow then none else layout.block true
    | '>' :: _ => if inFlow then none else layout.block false
    | '\'' :: _ => layout.quoted true
    | '"' :: _ => layout.quoted false
    | _ => none

/-! ## Texts -/

/-- Goes to the next token; at the beginning of a line, a key may begin. -/
def toToken : Nat → Layout → Layout
  | 0, layout => layout
  | fuel + 1, layout =>
    let cursor := layout.cursor
    let cursor :=
      if cursor.column = 0 && cursor.rest.head?.any isByteOrderMark then cursor.skip else cursor
    let admitsTab := layout.inFlow || !layout.admitsKey
    let cursor := cursor.skipWhile fun character =>
      character == ' ' || (admitsTab && character == '\t')
    let cursor :=
      if cursor.rest.head? == some '#' then cursor.skipWhile fun character => !isBreak character
      else cursor
    if cursor.rest.head?.any isBreak then
      toToken fuel { layout with
        cursor := cursor.skipBreak, admitsKey := layout.admitsKey || !layout.inFlow }
    else
      { layout with cursor := cursor }

/-- Reads all tokens; `fuel` bounds their number. -/
def tokensTo : Nat → Layout → Option (Array Token)
  | 0, _ => none
  | fuel + 1, layout => do
    let next ← (toToken (layout.cursor.rest.length + 1) layout).dropPassed
    let next := next.unindent (some next.cursor.column)
    if next.cursor.rest.isEmpty then
      let ended ← (next.unindent none).dropPlace
      some ended.tokens
    else
      let next ← next.token
      tokensTo fuel next

end Layout

/-- The tokens of a text, which may have a byte order mark in front. -/
def Token.all? (text : String) : Option (List Token) :=
  let characters :=
    match text.toList with
    | character :: rest => if isByteOrderMark character then rest else character :: rest
    | [] => []
  if characters.all isAllowed then
    (Layout.tokensTo (characters.length + 1) (.start characters)).map Array.toList
  else
    none

end Modbus.Document.Yaml
