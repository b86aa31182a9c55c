import IssueTracker.Json.Number
import IssueTracker.Table
/-!
# Configuration documents

Values of the TOML format, and the rules by which the lines of a document build its tables:
nothing is defined twice, and a table that is written as a value is complete.
-/

namespace IssueTracker

/-- A value of a configuration document. -/
inductive Toml where
  | text (value : String)
  | integer (value : Int)
  | float (value : Binary64)
  | boolean (value : Bool)
  /-- A date, a time or both, as it is written in its normal form. -/
  | moment (text : String)
  | array (items : List Toml)
  | table (entries : List (String × Toml))
  deriving Inhabited

namespace Toml

/-- How a table came into being. -/
inductive Origin where
  /-- Only as part of the path to another. -/
  | implied
  /-- By its own header. -/
  | header
  /-- By a dotted key. -/
  | dotted
  deriving DecidableEq

/-- A value under construction. -/
inductive Node where
  | value (v : Toml)
  | table (origin : Origin) (entries : List (String × Node))
  /-- The tables of repeated headers, the last of which is open. -/
  | tables (closed : List (List (String × Node))) (last : List (String × Node))

/-- The entries of a table under construction. -/
abbrev Entries := List (String × Node)

/-- Replaces the first entry of a key, or adds one. -/
def putEntry (key : String) (node : Node) : Entries → Entries
  | [] => [(key, node)]
  | (k, n) :: rest => if k = key then (key, node) :: rest else (k, n) :: putEntry key node rest

/-- The tables below some entries that a dotted key or a header leads through, changed at its
end. Dotted keys only go through tables that no header has defined. -/
def descend (dotted : Bool) (change : Origin → Entries → Option Entries) :
    List String → Origin → Entries → Option Entries
  | [], origin, entries => change origin entries
  | key :: path, _, entries =>
    match entries.lookup key with
    | none => do
      let origin := if dotted then .dotted else .implied
      let below ← descend dotted change path origin []
      return putEntry key (.table origin below) entries
    | some (.table origin below) =>
      if dotted ∧ origin = .header then none
      else do
        let below ← descend dotted change path origin below
        return putEntry key (.table origin below) entries
    | some (.tables closed last) => do
      let last ← descend dotted change path .header last
      return putEntry key (.tables closed last) entries
    | some (.value _) => none

/-- Adds a value under a key that is not there yet. -/
def addValue (plain : Bool) (key : String) (v : Toml) (origin : Origin) (entries : Entries) :
    Option Entries :=
  if decide (origin = .dotted) == plain then none
  else if (entries.lookup key).isSome then none
  else some (entries ++ [(key, .value v)])

/-- Adds the value of a dotted key. -/
def addDotted (keys : List String) (v : Toml) (entries : Entries) : Option Entries :=
  match keys.getLast? with
  | none => none
  | some key =>
    let path := keys.dropLast
    descend true (addValue path.isEmpty key v) path .header entries

/-- Opens the table of a header, unless it was defined before. -/
def openTable (key : String) (_ : Origin) (entries : Entries) : Option Entries :=
  match entries.lookup key with
  | none => some (entries ++ [(key, .table .header [])])
  | some (.table .implied below) => some (putEntry key (.table .header below) entries)
  | some _ => none

/-- Opens another table of a repeated header. -/
def openRepeated (key : String) (_ : Origin) (entries : Entries) : Option Entries :=
  match entries.lookup key with
  | none => some (entries ++ [(key, .tables [] [])])
  | some (.tables closed last) => some (putEntry key (.tables (closed ++ [last]) []) entries)
  | some _ => none

/-- One line of a document. -/
inductive Line where
  | entry (keys : List String) (value : Toml)
  | header (keys : List String)
  | repeated (keys : List String)

/-- A document under construction: its entries, and the header that new ones belong to. -/
structure Draft where
  entries : Entries
  current : List String

/-- Opens the table of a header's path. -/
def openAt (change : String → Origin → Entries → Option Entries) (keys : List String)
    (entries : Entries) : Option Entries :=
  match keys.getLast? with
  | none => none
  | some key => descend false (change key) keys.dropLast .header entries

/-- The draft after a line. -/
def Draft.add (d : Draft) : Line → Option Draft
  | .entry keys v => do
    let entries ← descend false (fun _ below => addDotted keys v below) d.current .header d.entries
    return { d with entries }
  | .header keys => (openAt openTable keys d.entries).map fun entries => ⟨entries, keys⟩
  | .repeated keys => (openAt openRepeated keys d.entries).map fun entries => ⟨entries, keys⟩

mutual

/-- The value of a finished node. -/
def Node.finish : Node → Toml
  | .value v => v
  | .table _ entries => .table (finishEntries entries)
  | .tables closed last =>
    .array (finishTables closed ++ [.table (finishEntries last)])

/-- The values of finished entries. -/
def finishEntries : List (String × Node) → List (String × Toml)
  | [] => []
  | (key, node) :: rest => (key, node.finish) :: finishEntries rest

/-- The values of finished tables. -/
def finishTables : List (List (String × Node)) → List Toml
  | [] => []
  | entries :: rest => .table (finishEntries entries) :: finishTables rest

end

/-- The entries of a document with these lines. -/
def ofLines (lines : List Line) : Option (List (String × Toml)) :=
  (lines.foldlM Draft.add ⟨[], []⟩).map fun d => finishEntries d.entries

/-- The table that is written as a value with these entries. -/
def inlineTable (entries : List (List String × Toml)) : Option Toml :=
  (entries.foldlM (fun (acc : Entries) (keys, v) => addDotted keys v acc) []).map fun acc =>
    .table (finishEntries acc)

end Toml

end IssueTracker
