import Omicron.Native.Block

/-!
# ClickHouse native protocol: table column descriptions

`io::table_columns`: before an insert the server describes the table's columns in a text, one
column a line, which the client parses with `nom`'s streaming parsers. A streaming parser that
runs out of text says `Incomplete` where a complete one fails, and the decoder then asks for more
bytes.

* `NomErr`, `Streaming` -- the streaming parsers over characters, with `Incomplete` beside the
  error;
* `columnDescription` -- one line: a backquoted name, a space, a type, and after a tab what the
  column's defaults are;
* `columnDescriptions` -- the header, the number of columns and the lines, which must be that
  many (`assert_eq!`).

An `InvalidPacket` error keeps the text the source writes before `nom`'s error, not that error.
-/

namespace Omicron.Native

/-- `nom::Err` as the streaming parsers raise it: `Incomplete`, or an error. -/
inductive NomErr where
  | incomplete
  | error
  deriving DecidableEq, Repr

/-- A streaming `nom` parser over characters. -/
abbrev Streaming (α : Type) := StateT (List Char) (Except NomErr) α

namespace Streaming

/-- `bytes::streaming::tag`: text that is a proper prefix of the tag is `Incomplete`. -/
def tag (t : String) : Streaming Unit := fun s =>
  if t.toList.isPrefixOf s then .ok ((), s.drop t.length)
  else if s.isPrefixOf t.toList then .error .incomplete
  else .error .error

/-- `character::streaming::u64`: decimal digits up to the first other character; digits running
    to the end of the text are `Incomplete`, and so is no text. -/
def u64 : Streaming UInt64 := fun s =>
  let ds := s.takeWhile Char.isDigit
  if s.isEmpty then .error .incomplete
  else if ds.isEmpty || 2 ^ 64 ≤ Nom.digitsValue ds then .error .error
  else if ds.length = s.length then .error .incomplete
  else .ok ((Nom.digitsValue ds).toUInt64, s.drop ds.length)

/-- `bytes::streaming::is_not` of one character: at least one character up to it, and
    `Incomplete` when it does not occur. -/
def isNot (c : Char) : Streaming (List Char) := fun s =>
  let taken := s.takeWhile (· ≠ c)
  if taken.length = s.length then .error .incomplete
  else if taken.isEmpty then .error .error
  else .ok (taken, s.drop taken.length)

/-- A complete parser inside a streaming one: its failure is an error. -/
def ofComplete {α : Type} (p : Nom α) : Streaming α := fun s =>
  match p s with
  | some (a, rest) => .ok (a, rest)
  | none => .error .error

end Streaming

/-- `ColumnDefaults`: which kinds of default expression a column has. -/
structure ColumnDefaults where
  hasDefault : Bool
  hasMaterialized : Bool
  hasEphemeral : Bool
  hasAlias : Bool
  deriving DecidableEq, Repr

/-- `ColumnDefaults::default`: none. -/
instance : Inhabited ColumnDefaults := ⟨⟨false, false, false, false⟩⟩

/-- `ColumnDescription`. -/
structure ColumnDescription where
  name : String
  dataType : DataType
  defaults : ColumnDefaults
  deriving DecidableEq, Repr

/-- `column_count`: `<n> columns:` and a newline. -/
def columnCount : Streaming UInt64 := do
  let n ← Streaming.u64
  Streaming.tag " columns:\n"
  pure n

/-- `backtick_quoted_column_name`. -/
def backtickQuotedColumnName : Streaming (List Char) := do
  Streaming.tag "`"
  let name ← Streaming.isNot '`'
  Streaming.tag "`"
  pure name

/-- `str::contains` of a text: whether it starts somewhere in `s`. -/
def containsText (s : List Char) (pattern : String) : Bool := s.tails.any pattern.toList.isPrefixOf

/-- `column_defaults`: which keywords the text after the tab contains. -/
def columnDefaults (s : List Char) : ColumnDefaults :=
  if s.isEmpty then default
  else
    ⟨containsText s "DEFAULT", containsText s "MATERIALIZED", containsText s "EPHEMERAL",
      containsText s "ALIAS"⟩

/-- `column_description` of one line: the text before the first tab (`split_once`) is the name
    and the type, whatever follows the type ignored; the text after it the defaults. -/
def columnDescription (env : Env) (line : List Char) : Except NomErr ColumnDescription := do
  let s := line.takeWhile (· ≠ '\t')
  let suffix := (line.dropWhile (· ≠ '\t')).drop 1
  let ((name, dataType), _) ← (do
    let name ← backtickQuotedColumnName
    Streaming.tag " "
    let dataType ← Streaming.ofComplete (DataType.nomParse env)
    pure (name, dataType) : Streaming _).run s
  pure ⟨String.ofList name, dataType, columnDefaults suffix⟩

/-- A line without its `\r`, if it ends in one. -/
def stripCr (line : List Char) : List Char :=
  if line.getLast? = some '\r' then line.dropLast else line

/-- `str::lines`, with the characters of the current line so far, last first: a line ends at a
    `\n`, which is dropped with a `\r` before it; a last line without `\n` is kept as it is,
    unless it is empty. -/
def linesFrom : List Char → List Char → List (List Char)
  | current, [] => if current.isEmpty then [] else [current.reverse]
  | current, '\n' :: rest => stripCr current.reverse :: linesFrom [] rest
  | current, c :: rest => linesFrom (c :: current) rest

/-- `str::lines`. -/
def lines (s : List Char) : List (List Char) := linesFrom [] s

/-- A `nom` result in `column_descriptions`: `Incomplete` asks for more bytes, an error is an
    `InvalidPacket` error with `msg`. -/
def nomStage {α : Type} (msg : String) : Except NomErr α → Except Stop α
  | .ok a => .ok a
  | .error .incomplete => .error .needMore
  | .error .error => .error (.error (.invalidPacket "TableColumns" msg))

/-- `column_descriptions`: the header, the count, then one description a line; a count other
    than the number of lines fails `assert_eq!`. -/
def columnDescriptions (env : Env) (text : String) : Except Stop (List ColumnDescription) := do
  let ((), text) ← nomStage "failed to parse header"
    ((Streaming.tag "columns format version: 1\n").run text.toList)
  let (nColumns, text) ← nomStage "failed to parse column count" (columnCount.run text)
  let out ← (lines text).mapM fun line =>
    nomStage "failed to parse description" (columnDescription env line)
  if out.length ≠ nColumns.toNat then throw .panic
  pure out

/-- A header counting one column above no line panics. -/
example : columnDescriptions ⟨fun _ => false, "UTC", fun _ => true⟩
    "columns format version: 1\n1 columns:\n" = .error .panic := by
  decide

/-- `io::table_columns::decode`: the table's name, then the text of its columns. -/
def decodeTableColumns (env : Env) : Decode (List ColumnDescription) := do
  let _tableName ← Str.decode
  let text ← Str.decode
  StateT.lift (columnDescriptions env text)

end Omicron.Native
