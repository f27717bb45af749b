import SqlComposer.Digest
import SqlComposer.Value.Basic

/-!
Names of enumeration types. Columns with the same options share a type, and its name is a
digest of the options, each behind its length so that the bounds between them count too.
-/

namespace SqlComposer

def lengthBytes (n : Nat) : List UInt8 :=
  (List.range 8).map fun i => UInt8.ofNat (n >>> (8 * i))

def framedOption (option : String) : List UInt8 :=
  lengthBytes option.utf8ByteSize ++ option.toUTF8.data.toList

def framedOptions (options : List String) : List UInt8 := options.flatMap framedOption

def enumTypeName (options : List String) : String :=
  "enum_" ++ Value.hex ((Digest.hashBytes (framedOptions options)).take 8)

end SqlComposer
