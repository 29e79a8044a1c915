import LinkedSelect.Session

/-!
# Replies from a table

A `ReplyTable` is a source that is told its replies beforehand. Each request has a key, its filter as it was given;
the requests of a key take the replies of that key one by one, and the last one again when they have run out. A key
without replies has no choices. `source` answers from the table and keeps what is left of it.
-/

namespace LinkedSelect

/-- A reply that was told beforehand, or none for a request that is held back. -/
abbrev Told := Option Reply

/-- The replies of each key. -/
structure ReplyTable where
  rows : List (String × List Told) := []

namespace ReplyTable

/-- A table of rows, later ones in place of earlier ones with the same key. -/
def ofList (rows : List (String × List Told)) : ReplyTable :=
  ⟨rows.foldl (fun rows (key, replies) => Assoc.put key replies rows) []⟩

/-- The next reply of a key, and what is left. -/
def take (t : ReplyTable) (key : String) : Told × ReplyTable :=
  match t.rows.lookup key with
  | some (reply :: next :: rest) => (reply, ⟨Assoc.put key (next :: rest) t.rows⟩)
  | some [reply] => (reply, t)
  | _ => (some (.ok []), t)

/-- Answers each request from the table. -/
def source : Source ReplyTable :=
  ⟨fun t r => t.take r.key⟩

end ReplyTable

end LinkedSelect
