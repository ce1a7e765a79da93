import Switchboard.Registry.Yaml.Node
import Switchboard.Registry.Yaml.Token
import Switchboard.Text.Utf8

/-!
# Reading documents

The document that a YAML text writes, which must be the only one in it. Where data may be left out
nothing stands in its place.
-/
namespace Switchboard.Yaml

/-! ## Readers -/

/-- What is left of a text, and what is known of the part before. -/
structure Remainder where
  /-- The tokens that are left. -/
  tokens : List Token
  /-- The bytes at the beginning of tags that handles stand for. -/
  handles : List (String × List UInt8) := []
  /-- The numbers of the names that are known. -/
  names : List (String × Nat) := []
  /-- The numbers of the named data in the order in which that begins, the latest first. -/
  numbers : List Nat := []
  /-- The named data, with how much named data begins before it. -/
  named : List (Nat × Node) := []
  /-- How many pieces of data are written. A list and a table count twice, as they begin and
  end. -/
  pieces : Nat := 0

/-- A reader of the tokens that are left. -/
abbrev Reader := StateT Remainder Option

namespace Reader

/-- The next token. -/
def next? : Reader (Option Token) := do return (← get).tokens.head?

/-- Whether the next token is among the given ones. -/
def isNext (tokens : List Token) : Reader Bool := do return (← next?).any tokens.contains

/-- Pass over the next token. -/
def pass : Reader Unit := modify fun remainder =>
  { remainder with tokens := remainder.tokens.drop 1 }

/-- Pass over the next token if it is the given one, and tell whether it is. -/
def passIf (token : Token) : Reader Bool := do
  if ← isNext [token] then
    pass
    return true
  else return false

/-- A node of as many pieces of data as are given. -/
def made (pieces : Nat) (node : Node) : Reader Node := do
  modify fun remainder => { remainder with pieces := remainder.pieces + pieces }
  return node

/-- What stands where nothing is written. -/
def absent (tag : Option Tag) : Reader Node := made 1 (.scalar .plain tag "")

/-! ## Names and tags -/

/-- Data under a name, which counts already while the data is read. The number of a name is how
many names are known when it is given; given anew it gets a new number. -/
def named (name : String) (read : Reader Node) : Reader Node := do
  let remainder ← get
  let number := remainder.names.length
  let place := remainder.numbers.length
  set { remainder with
    names := (name, number) :: remainder.names.filter (·.1 ≠ name)
    numbers := number :: remainder.numbers }
  let node ← read
  modify fun remainder => { remainder with named := (place, node) :: remainder.named }
  return node

/-- What stands for the data of a name. -/
def refer (name : String) : Reader Node := do
  let some number := (← get).names.lookup name | failure
  made 1 (.reference number)

/-- The beginning of the tags that are well known. -/
def wellKnown : List UInt8 := Text.bytesOf "tag:yaml.org,2002:"

/-- What the well-known tags say. -/
def wellKnownTags : List (List UInt8 × Tag) :=
  [("null", .nothing), ("bool", .truth), ("int", .whole), ("float", .number)].map
    fun (name, tag) => (wellKnown ++ Text.bytesOf name, tag)

/-- Whether bytes are those of a text. -/
def areText (bytes : List UInt8) : Bool := Text.bytesOf (Text.textOf bytes) = bytes

/-- What a tag in full says. A tag that begins with an exclamation mark is known to its writer
only, and if it is no text to nobody. -/
def tagOf (bytes : List UInt8) : Tag :=
  if bytes.head? = some exclamation then if areText bytes then .unknown else .illegible
  else (wellKnownTags.lookup bytes).getD .other

/-- The tag in full that is written. -/
def fullTag (written : WrittenTag) : Reader (List UInt8) := do
  if written.handle.isEmpty then return written.rest
  let some beginning := (← get).handles.lookup written.handle | failure
  return beginning ++ written.rest

/-- The name and the tag before data, in either order. -/
def readProperties : Reader (Option String × Option Tag) := do
  match ← next? with
  | some (.anchor name) =>
    pass
    match ← next? with
    | some (.tag written) =>
      pass
      return (name, tagOf (← fullTag written))
    | _ => return (name, none)
  | some (.tag written) =>
    pass
    match ← next? with
    | some (.anchor name) =>
      pass
      return (name, tagOf (← fullTag written))
    | _ => return (none, tagOf (← fullTag written))
  | _ => return (none, none)

end Reader

open Reader

/-! ## Data -/

mutual

/-- Data. In a block it may be a block itself, and where a table gives a value the items of a list
need not be indented. -/
def readNode (inBlock unindented : Bool) : Nat → Reader Node
  | 0 => failure
  | fuel + 1 => do
    if let some (.reference name) ← next? then
      pass
      refer name
    else
      let (name, tag) ← readProperties
      let content := readContent inBlock unindented (name.isSome || tag.isSome) tag fuel
      match name with
      | some name => named name content
      | none => content

/-- Data after its name and its tag. It may be left out if it has one of these. -/
def readContent (inBlock unindented isMarked : Bool) (tag : Option Tag) : Nat → Reader Node
  | 0 => failure
  | fuel + 1 => do
    let leftOut : Reader Node := if isMarked then absent tag else failure
    match ← next? with
    | some (.scalar manner value) =>
      pass
      made 1 (.scalar manner tag value)
    | some .openList =>
      pass
      made 2 (.list tag (← readFlowItems fuel))
    | some .openTable =>
      pass
      made 2 (.table tag (← readFlowEntries fuel))
    | some .item =>
      if unindented then made 2 (.list tag (← readItems false fuel)) else leftOut
    | some .beginBlockList =>
      if inBlock then
        pass
        made 2 (.list tag (← readItems true fuel))
      else leftOut
    | some .beginBlockTable =>
      if inBlock then
        pass
        made 2 (.table tag (← readEntries fuel))
      else leftOut
    | _ => leftOut

/-- Data, or nothing if one of the given tokens comes. -/
def readUnless (ends : List Token) (inBlock unindented : Bool) : Nat → Reader Node
  | 0 => failure
  | fuel + 1 => do
    if ← isNext ends then absent none
    else readNode inBlock unindented fuel

/-- The items of a list in brackets. A comma may be after the last one. -/
def readFlowItems : Nat → Reader (List Node)
  | 0 => failure
  | fuel + 1 => do
    if ← passIf .closeList then return []
    let item ← readFlowItem fuel
    if ← passIf .comma then return item :: (← readFlowItems fuel)
    else if ← passIf .closeList then return [item]
    else failure

/-- An item of a list in brackets. It may be an entry of a table that has no other. If the key of
that is left out, the token that comes in its place is passed over. -/
def readFlowItem : Nat → Reader Node
  | 0 => failure
  | fuel + 1 => do
    if ← passIf .key then
      let key ← if ← isNext [.value, .comma, .closeList] then
          pass
          absent none
        else readNode false false fuel
      let value ← if ← passIf .value then readUnless [.comma, .closeList] false false fuel
        else absent none
      made 2 (.table none [(key, value)])
    else readNode false false fuel

/-- The entries of a table in braces. A comma may be after the last one. -/
def readFlowEntries : Nat → Reader (List (Node × Node))
  | 0 => failure
  | fuel + 1 => do
    if ← passIf .closeTable then return []
    let entry ← readFlowEntry fuel
    if ← passIf .comma then return entry :: (← readFlowEntries fuel)
    else if ← passIf .closeTable then return [entry]
    else failure

/-- An entry of a table in braces. Its value may be left out, and its key too if it is marked as a
key. -/
def readFlowEntry : Nat → Reader (Node × Node)
  | 0 => failure
  | fuel + 1 => do
    if ← passIf .key then
      let key ← readUnless [.value, .comma, .closeTable] false false fuel
      let value ← if ← passIf .value then readUnless [.comma, .closeTable] false false fuel
        else absent none
      return (key, value)
    else return (← readNode false false fuel, ← absent none)

/-- The items of a list in a block, or of one that is not indented. -/
def readItems (indented : Bool) : Nat → Reader (List Node)
  | 0 => failure
  | fuel + 1 => do
    if ← passIf .item then
      let ends := if indented then [.item, .endBlock] else [.item, .key, .value, .endBlock]
      let item ← readUnless ends true false fuel
      return item :: (← readItems indented fuel)
    else if indented then
      if ← passIf .endBlock then return [] else failure
    else return []

/-- The entries of a table in a block. -/
def readEntries : Nat → Reader (List (Node × Node))
  | 0 => failure
  | fuel + 1 => do
    if ← passIf .key then
      let ends := [.key, .value, .endBlock]
      let key ← readUnless ends true true fuel
      let value ← if ← passIf .value then readUnless ends true true fuel else absent none
      return (key, value) :: (← readEntries fuel)
    else if ← passIf .endBlock then return []
    else failure

end

/-! ## Documents -/

/-- The handles that need no directive. -/
def usualHandles : List (String × List UInt8) :=
  [("!", [exclamation]), ("!!", wellKnown)]

/-- Note the directives before a document, and tell whether there are any. There is at most one on
the version, which is 1.1 or 1.2, and one on each handle. -/
def readDirectives (hasVersion : Bool) : Nat → Reader Bool
  | 0 => failure
  | fuel + 1 => do
    match ← next? with
    | some (.directive (.version major minor)) =>
      if hasVersion || major ≠ 1 || (minor ≠ 1 && minor ≠ 2) then failure
      pass
      let _ ← readDirectives true fuel
      return true
    | some (.directive (.handle handle beginning)) =>
      if ((← get).handles.lookup handle).isSome then failure
      modify fun remainder =>
        { remainder with handles := (handle, beginning) :: remainder.handles }
      pass
      let _ ← readDirectives hasVersion fuel
      return true
    | _ => return false

/-- The only document. A mark may stand before it, and must do so if there are directives; after
the mark it may be left out. -/
def readDocument (fuel : Nat) : Reader Node := do
  let isDirected ← readDirectives false fuel
  modify fun remainder => { remainder with handles := remainder.handles ++ usualHandles }
  if ← passIf .beginDocument then readUnless [.endDocument] true false fuel
  else if isDirected then failure
  else readNode true false fuel

/-- The document that a text writes. A number stands for the data that got it last. Between two
tokens that are passed over no more than four readers call each other. -/
def read? (written : String) : Option Document := do
  let signs ← signs? written.toList
  let tokens ← Token.ofSigns? signs
  let (node, after) ← (readDocument (4 * tokens.length + 4)).run { tokens }
  if !after.tokens.all (· = .endDocument) then none
  let book (number : Nat) : Option Node := do
    let earlier ← (after.numbers.dropWhile (· ≠ number)).tail?
    after.named.lookup earlier.length
  node.document? book after.pieces

end Switchboard.Yaml
