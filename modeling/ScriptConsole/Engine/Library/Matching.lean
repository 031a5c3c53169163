import ScriptConsole.Engine.Library.Sequence
import ScriptConsole.Engine.Matcher

/-!
Matchers as objects: their flags, where they go on, and what a match of them is shown as. -/
namespace ScriptConsole.Engine
open Action

namespace Matching

structure Match where
  start : Nat
  stop : Nat
  texts : List (Option String)
  names : List (String × Nat)

def Match.text (m : Match) : String := ((m.texts.head?).join).getD ""

def charPlace : List Char → Nat → Nat
  | _, 0 => 0
  | [], _ => 1
  | c :: rest, n + 1 =>
      if c.toNat < 0x10000 then charPlace rest n + 1 else charPlace rest (n - 1) + 1

def matchAt (source flags s : String) (sticky : Bool) (place : Nat) : Action (Option Match) := do
  let compiled ← match Matcher.compile? source with
    | some compiled => pure compiled
    | none => fail .grammar "invalid regular expression"
  let text := s.toList.toArray
  let options : Matcher.Flags := ⟨flags.contains 'i', flags.contains 'm', flags.contains 's'⟩
  let unitsTo (n : Nat) : Nat := Units.length (String.ofList (text.extract 0 n).toList)
  let slice (first last : Nat) : String := String.ofList (text.extract first last).toList
  return (Matcher.find? compiled.matcher options sticky text (charPlace s.toList place)).map
    fun (first, last, groups) =>
      ⟨unitsTo first, unitsTo last,
        some (slice first last) :: (List.range compiled.count).map fun n =>
          (groups.find? (·.1 == n + 1)).map fun (_, first, last) => slice first last,
        compiled.names⟩

def matchesFrom (source flags s : String) : (fuel place : Nat) → Action (List Match)
  | 0, _ => return []
  | fuel + 1, place => do
      if Units.length s < place then return []
      match ← matchAt source flags s (flags.contains 'y') place with
      | none => return []
      | some m =>
          let next := if m.stop = m.start then m.stop + 1 else m.stop
          return m :: (← matchesFrom source flags s fuel next)

def optional : Option String → Value
  | some s => .text s
  | none => .undefined

def shown (s : String) (m : Match) : Action Value := do
  let v ← newArray (m.texts.map optional)
  match v with
  | .object ref =>
      define ref (.name "index") (.ordinary (.number (Float.ofNat m.start)))
      define ref (.name "input") (.ordinary (.text s))
      let groups ← if m.names.isEmpty then pure .undefined else
        (do
          let named ← allocate (.ofKind .plain none)
          m.names.forM fun (name, n) =>
            define named (.name name) (.ordinary (optional (m.texts.getD n none)))
          return Value.object named)
      define ref (.name "groups") (.ordinary groups)
  | _ => pure ()
  return v

def parts? (v : Value) : Action (Option (Nat × String × String)) := do
  match v with
  | .object ref =>
      match (← object ref).kind with
      | .matcher source flags => return some (ref, source, flags)
      | _ => return none
  | _ => return none

def parts (v : Value) : Action (Nat × String × String) := do
  match ← parts? v with
  | some found => return found
  | none => mistyped "not a RegExp"

def next (r : Recur) (v : Value) (s : String) : Action (Option Match) := do
  let (ref, source, flags) ← parts v
  let goesOn := flags.contains 'g' || flags.contains 'y'
  let place ← if goesOn then
      Int.toNat <$> (do r.toWhole (← r.getNamed v "lastIndex"))
    else pure 0
  let found ← if Units.length s < place then pure none
    else matchAt source flags s (flags.contains 'y') place
  if goesOn then
    let last := (found.map (·.stop)).getD 0
    define ref (.name "lastIndex") (.data (.number (Float.ofNat last)) true false false)
  return found

def newMatcher (source flags : String) : Action Value := do
  if (Matcher.compile? source).isNone then fail .grammar "invalid regular expression"
  if flags.toList.any fun c => !"dgimsuvy".contains c then
    fail .grammar "invalid regular expression flags"
  let v ← make (.matcher source flags) Place.matcherProto
  match v with
  | .object ref => define ref (.name "lastIndex") (.data (.number 0) true false false)
  | _ => pure ()
  return v

def flagGetter (name : String) (flag : Char) : Content :=
  .getter (.name name) fun _ use => return .boolean ((← parts use.this).2.2.contains flag)

def shelf : Shelf :=
  .constructor "RegExp" 2 true
    (fun r use => do
      let (source, flags) ← match ← parts? (use.argument 0) with
        | some (_, source, flags) => pure (source, flags)
        | none =>
            match use.argument 0 with
            | .undefined => pure ("(?:)", "")
            | v => (fun s => (s, "")) <$> r.toText v
      let flags ← match use.argument 1 with
        | .undefined => pure flags
        | v => r.toText v
      newMatcher source flags)
    Place.matcherProto none [.missing "escape"]
    [.getter (.name "flags") fun _ use => return .text (← parts use.this).2.2,
      .getter (.name "source") fun _ use => return .text (← parts use.this).2.1,
      flagGetter "global" 'g', flagGetter "ignoreCase" 'i', flagGetter "multiline" 'm',
      flagGetter "dotAll" 's', flagGetter "unicode" 'u', flagGetter "unicodeSets" 'v',
      flagGetter "sticky" 'y', flagGetter "hasIndices" 'd',
      .function "exec" 1 fun r use => do
        let s ← r.toText (use.argument 0)
        match ← next r use.this s with
        | some m => shown s m
        | none => return .null,
      .missing "compile",
      .function "test" 1 fun r use => do
        return .boolean (← next r use.this (← r.toText (use.argument 0))).isSome,
      .function "toString" 0 fun _ use => do
        let (_, source, flags) ← parts use.this
        return .text ("/" ++ source ++ "/" ++ flags)]

end Matching

end ScriptConsole.Engine
