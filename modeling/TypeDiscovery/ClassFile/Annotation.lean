import TypeDiscovery.ClassFile.ConstantPool

/-!
# Annotations

Of an annotation only its type is kept; the values of its elements are passed over. Values nest,
but never deeper than the bytes that hold them, which bounds the recursion.
-/

namespace TypeDiscovery.ClassFile

/-- The dotted type name of a descriptor such as `Lcom/acme/Plugin;`. -/
def annotationType (descriptor : String) : Except ParseError String :=
  match descriptor.toList with
  | 'L' :: rest =>
    match Text.stripSuffix? [';'] rest with
    | some (c :: name) => .ok (ConstantPool.dotted (String.ofList (c :: name)))
    | _ => .error (.malformedDescriptor descriptor)
  | _ => .error (.malformedDescriptor descriptor)

namespace ElementValue

/-- Tags of values that are one index into the constant pool. -/
def indexTags : List Char := ['B', 'C', 'D', 'F', 'I', 'J', 'S', 'Z', 's', 'c']

/-- Passes over the elements of an annotation: their names and values. -/
def skipPairs (value : Parser Unit) : Parser Unit := do
  let pairs ← Parser.u2
  Parser.repeatedly (do Parser.skip 2; value) pairs

/-- Passes over one value. Each level of nesting takes at least one byte, so input is left for at
most as many levels as it has bytes. -/
def skip : Nat → Parser Unit
  | 0 => throw .unexpectedEnd
  | depth + 1 => do
    let tag := Char.ofNat (← Parser.u1)
    if tag ∈ indexTags then Parser.skip 2
    else if tag = 'e' then Parser.skip 4
    else if tag = '@' then
      Parser.skip 2
      skipPairs (skip depth)
    else if tag = '[' then
      let values ← Parser.u2
      Parser.repeatedly (skip depth) values
    else throw (.malformedDescriptor s!"unknown element value tag {tag}")

end ElementValue

/-- The type of one annotation, whose values nest at most `depth` levels. -/
def annotatedType (pool : ConstantPool) (depth : Nat) : Parser String := do
  let typeIndex ← Parser.u2
  let type ← annotationType (← pool.text typeIndex)
  ElementValue.skipPairs (ElementValue.skip depth)
  return type

/-- The annotation types in the body of an annotations attribute; bytes after the announced
annotations are passed over. -/
def annotationsOfBody (pool : ConstantPool) (body : List UInt8) :
    Except ParseError (List String) :=
  StateT.run' (do Parser.times (← Parser.u2) (annotatedType pool body.length)) body

end TypeDiscovery.ClassFile
