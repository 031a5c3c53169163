import ScriptConsole.Engine.Convert

/-!
How the library is laid out: shelves of functions and constants, in the order in which scripts see
them. A function is known to the machine by its number in that order. -/
namespace ScriptConsole.Engine
open Action

inductive Content
  | method (key : Key) (arity : Nat) (run : Native)
  | getter (key : Key) (run : Native)
  | accessor (key : Key) (read write : Native)
  | constant (key : Key) (v : Value)
  | datum (key : Key) (v : Value)
  | alias (key : Key) (name : String)

namespace Content

def function (name : String) (arity : Nat) (run : Native) : Content :=
  .method (.name name) arity run

def missing (name : String) : Content :=
  function name 0 fun _ _ => Action.mistyped "unsupported"

def natives : Content → List Native
  | .method _ _ run => [run]
  | .getter _ run => [run]
  | .accessor _ read write => [read, write]
  | _ => []

end Content

inductive Shelf
  | constructor (name : String) (arity : Nat) (isNew : Bool) (run : Native) (proto : Nat)
      (parent : Option Nat) (statics methods : List Content)
  | record (name : String) (contents : List Content)
  | part (place : Nat) (contents : List Content)

namespace Shelf

def natives : Shelf → List Native
  | constructor _ _ _ run _ _ statics methods =>
      run :: (statics.flatMap Content.natives ++ methods.flatMap Content.natives)
  | record _ contents => contents.flatMap Content.natives
  | part _ contents => contents.flatMap Content.natives

def newNative (index : Nat) (held : List Value) (constructs : Bool) (name : String)
    (arity : Nat) : Action Nat := do
  let ref ← allocate (.ofKind (.native index held constructs) (some Place.functionProto))
  define ref (.name "length") (.data (.number (Float.ofNat arity)) false false true)
  define ref (.name "name") (.data (.text name) false false true)
  return ref

def titleOf : Key → String
  | .symbol s => "[" ++ s.description.getD "" ++ "]"
  | key => key.describe

/- Gives an object what it has; the number is that of its first function. -/
def fill (ref : Nat) : (index : Nat) → List Content → Action Nat
  | index, [] => return index
  | index, content :: rest => do
      match content with
      | .method key arity _ =>
          let f ← newNative index [] false (titleOf key) arity
          define ref key (.quiet (.object f))
      | .getter key _ =>
          let f ← newNative index [] false ("get " ++ titleOf key) 0
          define ref key (.accessor (.object f) .undefined false true)
      | .accessor key _ _ =>
          let getter ← newNative index [] false ("get " ++ titleOf key) 0
          let setter ← newNative (index + 1) [] false ("set " ++ titleOf key) 1
          define ref key (.accessor (.object getter) (.object setter) false true)
      | .constant key v => define ref key (.data v false false false)
      | .datum key v => define ref key (.quiet v)
      | .alias key name =>
          match (← object ref).slot? (.name name) with
          | some slot => define ref key slot
          | none => pure ()
      fill ref (index + content.natives.length) rest

def install (index : Nat) : Shelf → Action Nat
  | constructor name arity isNew _ proto parent statics methods => do
      let f ← newNative index [] isNew name arity
      parent.forM fun parent => do
        match (← object parent).slot? (.name "constructor") with
        | some (.data (.object ref) ..) => update f fun o => { o with proto := some ref }
        | _ => return
      define f (.name "prototype") (.data (.object proto) false false false)
      let index ← fill f (index + 1) statics
      let index ← fill proto index methods
      define proto (.name "constructor") (.quiet (.object f))
      define Place.globalObject (.name name) (.quiet (.object f))
      return index
  | record name contents => do
      let ref ← newRecord
      define Place.globalObject (.name name) (.quiet (.object ref))
      fill ref index contents
  | part place contents => fill place index contents

def installAll : (index : Nat) → List Shelf → Action Unit
  | _, [] => return
  | index, shelf :: rest => do installAll (← install index shelf) rest

end Shelf

end ScriptConsole.Engine
