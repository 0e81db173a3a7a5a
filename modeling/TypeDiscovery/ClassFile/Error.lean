import TypeDiscovery.Text.Utf8

/-!
# Faults of class files
-/

namespace TypeDiscovery.ClassFile

inductive ParseError where
  | unexpectedEnd
  | invalidMagic
  | unsupportedVersion (major : Nat)
  | unsupportedConstant (tag : Nat)
  /-- An index at which the constant pool holds nothing of the wanted kind. -/
  | invalidConstantIndex (index : Nat)
  /-- A name in the constant pool that is not UTF-8. -/
  | invalidName (fault : Text.Utf8.Fault)
  | malformedDescriptor (text : String)
  deriving DecidableEq

def ParseError.message : ParseError → String
  | unexpectedEnd => "unexpected end of class file"
  | invalidMagic => "invalid class file magic header"
  | unsupportedVersion major => s!"unsupported class file version {major}"
  | unsupportedConstant tag => s!"unsupported constant pool tag {tag}"
  | invalidConstantIndex index => s!"invalid constant pool index {index}"
  | invalidName fault => s!"invalid UTF-8 string in constant pool: {fault.message}"
  | malformedDescriptor text => s!"malformed descriptor: {text}"

end TypeDiscovery.ClassFile
