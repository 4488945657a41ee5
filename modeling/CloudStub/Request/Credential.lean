import CloudStub.Text.Cut

/-!
# Credential scope

A signed request names region and service inside its authorization field, in a fragment
`Credential=<key>/<date>/<region>/<service>/...`.  The scope is the longest run of visible
characters behind the first `Credential=` that ends at the edge of a word; where no such run
exists, the next occurrence is tried.

## Main Definitions

- `Credential.scope?`: the text behind `Credential=`
- `Credential.regionAndService?`: the third and the fourth part of the scope
-/

namespace CloudStub.Credential

/-- The mark in front of a scope. -/
def mark : List Char := "Credential=".toList

/-- What follows a text at the front of another. -/
def behind? : List Char → List Char → Option (List Char)
  | [], cs => some cs
  | m :: ms, c :: cs => if m = c then behind? ms cs else none
  | _ :: _, [] => none

/-- Whether two neighbouring characters form the edge of a word. -/
def isEdge (left : Char) (right : Option Char) : Bool :=
  Unicode.isWord left != (right.map Unicode.isWord).getD false

/-- The longest nonempty front part of visible characters that ends at the edge of a word. -/
def longest? : List Char → Option (List Char)
  | [] => none
  | c :: rest =>
    if Unicode.isBlank c then none
    else
      match longest? rest with
      | some more => some (c :: more)
      | none => if isEdge c rest.head? then some [c] else none

/-- The scope behind the first mark that one follows. -/
def scope? : List Char → Option (List Char)
  | [] => none
  | c :: rest =>
    match (behind? mark (c :: rest)).bind longest? with
    | some scope => some scope
    | none => scope? rest

/-- Region and service: the third and the fourth part of the scope. -/
def regionAndService? (authorization : String) : Option (String × String) := do
  let scope ← scope? authorization.toList
  match Cut.fields '/' scope with
  | _ :: _ :: region :: service :: _ => some (String.ofList region, String.ofList service)
  | _ => none

end CloudStub.Credential
