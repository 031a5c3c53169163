import ScriptConsole.Engine.Library.Fundamental

/-!
Arrays. Their functions work on whatever has a length and numbered properties. -/
namespace ScriptConsole.Engine
open Action

namespace Sequence

def ofNat (n : Nat) : Value := .number (Float.ofNat n)

/- The place that a number names in a sequence; a negative one counts from the end. -/
def place (length : Nat) (n : Int) : Nat :=
  if n < 0 then (length + n).toNat else min n.toNat length

def placeOf (r : Recur) (length : Nat) (v : Value) (otherwise : Nat) : Action Nat := do
  match v with
  | .undefined => return otherwise
  | _ => return place length (← r.toWhole v)

def isArray (v : Value) : Action Bool := do
  match v with
  | .object ref => return (← object ref).isArray
  | _ => return false

def callback (use : Use) (n : Nat) : Action Value := do
  let f := use.argument n
  if ← isCallable f then return f else mistyped "not a function"

def isThere (this : Value) (n : Nat) : Action Bool := do
  match this with
  | .object ref =>
      match (← object ref).kind with
      | .array items => return items[n]?.join.isSome
      | _ => Recur.has this (Key.ofNat n)
  | _ => return true

def each {σ : Type} (r : Recur) (use : Use) (backward skips : Bool)
    (action : σ → Nat → Value → Value → Action (ForInStep σ)) (start : σ) : Action σ := do
  let length ← r.lengthOf use.this
  let f ← callback use 0
  let (_, s) ← loop (fun (n, s) => do
    if length ≤ n then return .done (n, s)
    let k := if backward then length - 1 - n else n
    if skips && !(← isThere use.this k) then return .yield (n + 1, s)
    let item ← r.get use.this (Key.ofNat k)
    let result ← r.call f (use.argument 1) [item, ofNat k, use.this]
    match ← action s k item result with
    | .done s => return .done (n, s)
    | .yield s => return .yield (n + 1, s)) unbounded (0, start)
  return s

def find (r : Recur) (use : Use) (backward : Bool) : Action (Option (Nat × Value)) :=
  each r use backward false (fun _ n item result =>
    return if truthy result then ForInStep.done (some (n, item)) else ForInStep.yield none) none

def reduce (r : Recur) (use : Use) (backward : Bool) : Action Value := do
  let items ← r.itemsOf use.this
  let f ← callback use 0
  let numbered := items.zipIdx
  let numbered := if backward then numbered.reverse else numbered
  let (start, numbered) ← match use.arguments, numbered with
    | _ :: start :: _, _ => pure (start, numbered)
    | _, (first, _) :: rest => pure (first, rest)
    | _, [] => mistyped "empty array"
  numbered.foldlM (fun sum (item, n) =>
    r.call f .undefined [sum, item, ofNat n, use.this]) start

def flatten (depth : Nat) (items : List Value) : Action (List Value) := do
  match depth with
  | 0 => return items
  | depth + 1 =>
      let parts ← items.mapM fun item => do
        match item with
        | .object ref =>
            match (← object ref).kind with
            | .array inner => flatten depth (inner.toList.filterMap id)
            | _ => return [item]
        | _ => return [item]
      return parts.flatten

def joinItems (r : Recur) (separator : String) (items : List Value) : Action String := do
  let texts ← items.mapM fun v => if isNullish v then pure "" else r.toText v
  return separator.intercalate texts

def replaceItems (r : Recur) (this : Value) (items : List Value) : Action Unit := do
  match this with
  | .object ref =>
      let o ← object ref
      if o.frozen then mistyped "object is not extensible"
      match o.kind with
      | .array _ => update ref fun o => { o with kind := .array (items.map some).toArray }
      | _ =>
          items.zipIdx.forM fun (item, n) => r.set this (Key.ofNat n) item
          r.set this (.name "length") (ofNat items.length)
  | _ => mistyped "not an object"

/- Merges two sorted lists, the first one's items first where neither is less. -/
def merge (less : Value → Value → Action Bool) :
    (fuel : Nat) → List Value → List Value → Action (List Value)
  | 0, a, b => return a ++ b
  | _, [], b => return b
  | _, a, [] => return a
  | fuel + 1, x :: a, y :: b => do
      if ← less y x then return y :: (← merge less fuel (x :: a) b)
      else return x :: (← merge less fuel a (y :: b))

/- Sorts items; equal ones stay in order. -/
def sorted (less : Value → Value → Action Bool) : (fuel : Nat) → List Value → Action (List Value)
  | 0, items => return items
  | fuel + 1, items => do
      if items.length ≤ 1 then return items
      else
        let (front, back) := items.splitAt (items.length / 2)
        merge less items.length (← sorted less fuel front) (← sorted less fuel back)

def sortItems (r : Recur) (compare : Value) (items : List Value) : Action (List Value) := do
  if !isNullish compare && !(← isCallable compare) then mistyped "not a function"
  let isUndefined : Value → Bool
    | .undefined => true
    | _ => false
  let (absent, items) := items.partition isUndefined
  let less (a b : Value) : Action Bool := do
    match compare with
    | .undefined => return textLess (← r.toText a) (← r.toText b)
    | f => return (← r.toNumber (← r.call f .undefined [a, b])) < 0
  return (← sorted less (items.length + 1) items) ++ absent

def spliced (r : Recur) (use : Use) (items : List Value) :
    Action (List Value × List Value) := do
  let length := items.length
  let start ← placeOf r length (use.argument 0) 0
  let count ← match use.arguments with
    | [] => pure 0
    | [_] => pure (length - start)
    | _ :: n :: _ => (fun k : Int => min k.toNat (length - start)) <$> r.toWhole n
  return (items.take start ++ use.arguments.drop 2 ++ items.drop (start + count),
    (items.drop start).take count)

def cursor (items : List Value) : Action Value := make (.cursor items) Place.cursorProto

def statics : List Content := [
  .function "isArray" 1 fun _ use => return .boolean (← isArray (use.argument 0)),
  .function "from" 1 fun r use => do
    let source := use.argument 0
    let items ← if ← isCallable (← if isNullish source then pure .undefined
        else r.get source (.symbol Symbol.iterator)) then r.toList source else
      if isNullish source then mistyped "cannot convert to object" else r.itemsOf source
    match use.argument 1 with
    | .undefined => newArray items
    | f => newArray (← items.zipIdx.mapM fun (item, n) =>
        r.call f (use.argument 2) [item, ofNat n]),
  .missing "fromAsync",
  .function "of" 0 fun _ use => newArray use.arguments]

def search (equal : Value → Value → Bool) (items : List Value) (start : Nat) (v : Value) :
    Option Nat :=
  ((items.zipIdx.drop start).find? fun (item, _) => equal item v).map (·.2)

def methods : List Content := [
  .datum (.name "length") (.number 0),
  .function "at" 1 fun r use => do
    let length ← r.lengthOf use.this
    let n ← r.toWhole (use.argument 0)
    let n := if n < 0 then length + n else n
    if n < 0 then return .undefined else r.get use.this (Key.ofNat n.toNat),
  .function "with" 2 fun r use => do
    let items ← r.itemsOf use.this
    let n ← r.toWhole (use.argument 0)
    let n := if n < 0 then items.length + n else n
    if n < 0 || items.length ≤ n then fail .range "out of bound"
    newArray (items.set n.toNat (use.argument 1)),
  .function "concat" 1 fun r use => do
    let parts ← (use.this :: use.arguments).mapM fun v => do
      if ← isArray v then r.itemsOf v else return [v]
    newArray parts.flatten,
  .function "every" 1 fun r use => do
    return .boolean (← each r use false true (fun _ _ _ result =>
      return if truthy result then .yield true else .done false) true),
  .function "some" 1 fun r use => do
    return .boolean (← each r use false true (fun _ _ _ result =>
      return if truthy result then .done true else .yield false) false),
  .function "forEach" 1 fun r use => do
    each r use false true (fun _ _ _ _ => return .yield ()) ()
    return .undefined,
  .function "map" 1 fun r use => do
    let length ← r.lengthOf use.this
    let found ← each r use false true (fun found n _ result =>
      return .yield (found.setIfInBounds n (some result))) (Array.replicate length none)
    make (.array found) Place.arrayProto,
  .function "filter" 1 fun r use => do
    let found ← each r use false true (fun found _ item result =>
      return .yield (if truthy result then item :: found else found)) []
    newArray found.reverse,
  .function "reduce" 1 fun r use => reduce r use false,
  .function "reduceRight" 1 fun r use => reduce r use true,
  .function "fill" 1 fun r use => do
    let items ← r.itemsOf use.this
    let start ← placeOf r items.length (use.argument 1) 0
    let stop ← placeOf r items.length (use.argument 2) items.length
    replaceItems r use.this (items.zipIdx.map fun (item, n) =>
      if start ≤ n && n < stop then use.argument 0 else item)
    return use.this,
  .function "find" 1 fun r use => return ((← find r use false).map (·.2)).getD .undefined,
  .function "findIndex" 1 fun r use => do
    return ((← find r use false).map fun (n, _) => ofNat n).getD (.number (-1)),
  .function "findLast" 1 fun r use => return ((← find r use true).map (·.2)).getD .undefined,
  .function "findLastIndex" 1 fun r use => do
    return ((← find r use true).map fun (n, _) => ofNat n).getD (.number (-1)),
  .function "indexOf" 1 fun r use => do
    let items ← r.itemsOf use.this
    let start ← placeOf r items.length (use.argument 1) 0
    return ((search same items start (use.argument 0)).map ofNat).getD (.number (-1)),
  .function "lastIndexOf" 1 fun r use => do
    let items ← r.itemsOf use.this
    let found := (items.zipIdx.reverse.find? fun (item, _) => same item (use.argument 0))
    return (found.map fun (_, n) => ofNat n).getD (.number (-1)),
  .function "includes" 1 fun r use => do
    let items ← r.itemsOf use.this
    let start ← placeOf r items.length (use.argument 1) 0
    return .boolean (search sameValue items start (use.argument 0)).isSome,
  .function "join" 1 fun r use => do
    let separator ← match use.argument 0 with
      | .undefined => pure ","
      | v => r.toText v
    return .text (← joinItems r separator (← r.itemsOf use.this)),
  .function "toString" 0 fun r use => do
    let join ← r.getNamed use.this "join"
    if ← isCallable join then r.call join use.this []
    else return .text ("[object " ++ (← Record.tag r use.this) ++ "]"),
  .function "toLocaleString" 0 fun r use => do
    return .text (← joinItems r "," (← r.itemsOf use.this)),
  .function "pop" 0 fun r use => do
    let items ← r.itemsOf use.this
    replaceItems r use.this items.dropLast
    return items.getLastD .undefined,
  .function "push" 1 fun r use => do
    match use.this with
    | .object ref =>
        let o ← object ref
        if !o.extensible then mistyped "object is not extensible"
        match o.kind with
        | .array items =>
            update ref fun o =>
              { o with kind := .array (items ++ (use.arguments.map some).toArray) }
            return ofNat (items.size + use.arguments.length)
        | _ =>
            let items ← r.itemsOf use.this
            replaceItems r use.this (items ++ use.arguments)
            return ofNat (items.length + use.arguments.length)
    | _ => mistyped "not an object",
  .function "shift" 0 fun r use => do
    let items ← r.itemsOf use.this
    replaceItems r use.this items.tail
    return items.headD .undefined,
  .function "unshift" 1 fun r use => do
    let items ← r.itemsOf use.this
    replaceItems r use.this (use.arguments ++ items)
    return ofNat (items.length + use.arguments.length),
  .function "reverse" 0 fun r use => do
    replaceItems r use.this (← r.itemsOf use.this).reverse
    return use.this,
  .function "toReversed" 0 fun r use => do newArray (← r.itemsOf use.this).reverse,
  .function "sort" 1 fun r use => do
    replaceItems r use.this (← sortItems r (use.argument 0) (← r.itemsOf use.this))
    return use.this,
  .function "toSorted" 1 fun r use => do
    newArray (← sortItems r (use.argument 0) (← r.itemsOf use.this)),
  .function "slice" 2 fun r use => do
    let items ← r.itemsOf use.this
    let start ← placeOf r items.length (use.argument 0) 0
    let stop ← placeOf r items.length (use.argument 1) items.length
    newArray ((items.drop start).take (stop - start)),
  .function "splice" 2 fun r use => do
    let (left, taken) ← spliced r use (← r.itemsOf use.this)
    replaceItems r use.this left
    newArray taken,
  .function "toSpliced" 2 fun r use => do
    newArray (← spliced r use (← r.itemsOf use.this)).1,
  .function "copyWithin" 2 fun r use => do
    let items ← r.itemsOf use.this
    let target ← placeOf r items.length (use.argument 0) 0
    let start ← placeOf r items.length (use.argument 1) 0
    let stop ← placeOf r items.length (use.argument 2) items.length
    let moved := ((items.drop start).take (stop - start)).take (items.length - target)
    replaceItems r use.this (items.take target ++ moved ++ items.drop (target + moved.length))
    return use.this,
  .function "flatMap" 1 fun r use => do
    let found ← each r use false true (fun found _ _ result => return .yield (result :: found)) []
    newArray (← flatten 1 found.reverse),
  .function "flat" 0 fun r use => do
    let depth ← match use.argument 0 with
      | .undefined => pure 1
      | v => r.toWhole v
    newArray (← flatten (min depth.toNat 1000) (← r.itemsOf use.this)),
  .function "values" 0 fun r use => do cursor (← r.itemsOf use.this),
  .alias (.symbol Symbol.iterator) "values",
  .function "keys" 0 fun r use => do
    cursor ((List.range (← r.lengthOf use.this)).map ofNat),
  .function "entries" 0 fun r use => do
    cursor (← (← r.itemsOf use.this).zipIdx.mapM fun (item, n) => newArray [ofNat n, item])]

def shelf : Shelf :=
  .constructor "Array" 1 true (fun r use => do
    let proto ← r.protoFor use.target Place.arrayProto
    match use.arguments with
    | [.number x] =>
        let v ← make (.array #[]) proto
        match v with
        | .object ref => Recur.setLength ref #[] (.number x)
        | _ => pure ()
        return v
    | items => make (.array (items.map some).toArray) proto)
    Place.arrayProto none statics methods

def cursors : Shelf := .part Place.cursorProto [
  .function "next" 0 fun _ use => do
    let ref ← Record.needObject use.this
    let result ← newRecord
    match (← object ref).kind with
    | .cursor (v :: rest) =>
        update ref fun o => { o with kind := .cursor rest }
        define result (.name "value") (.ordinary v)
        define result (.name "done") (.ordinary (.boolean false))
    | .cursor [] =>
        define result (.name "value") (.ordinary .undefined)
        define result (.name "done") (.ordinary (.boolean true))
    | _ => mistyped "not an iterator"
    return .object result,
  .function "return" 1 fun _ use => do
    let ref ← Record.needObject use.this
    update ref fun o => { o with kind := .cursor [] }
    let result ← newRecord
    define result (.name "value") (.ordinary (use.argument 0))
    define result (.name "done") (.ordinary (.boolean true))
    return .object result,
  .method (.symbol Symbol.iterator) 0 fun _ use => return use.this]

end Sequence

end ScriptConsole.Engine
