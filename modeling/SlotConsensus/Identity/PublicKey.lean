import SlotConsensus.Curve.Point
import SlotConsensus.Identity.Error

/-! The identities of validators: points of the curve in their short form.  A key may be read from
either form of its bytes and from hexadecimal text, and has one short form, so two keys are equal
when their points are. -/

namespace SlotConsensus

/-- A way to read keys from bytes, in whatever forms it has, and to write them in 33 bytes.  It says
why bytes are refused. -/
structure KeyFormat where
  Key : Type
  read : List UInt8 → Except String Key
  write : Key → Octets 33

/-- The points of the curve secp256k1, read from the short or the long form of their bytes and
written in the short one. -/
def KeyFormat.secp256k1 : KeyFormat where
  Key := Curve.Point
  read bytes :=
    match Curve.Point.decode? bytes with
    | some p => .ok p
    | none => .error "malformed public key"
  write := Curve.Point.encode

structure PublicKey where
  bytes : Octets 33
  deriving DecidableEq

namespace PublicKey

def ofPoint (p : Curve.Point) : PublicKey := ⟨p.encode⟩

/-- The key that `f` reads from the given bytes. -/
def ofBytesIn (f : KeyFormat) (bytes : List UInt8) : Except KeyError PublicKey :=
  match f.read bytes with
  | .ok p => .ok ⟨f.write p⟩
  | .error reason => .error (.invalidPublicKey reason)

/-- The key with the given bytes, which may be in the short or the long form. -/
def ofBytes : List UInt8 → Except KeyError PublicKey := ofBytesIn .secp256k1

/-- The 66 digits of the short form. -/
def toHex (k : PublicKey) : String := Hex.encode k.bytes.toList

/-- What remains of a text without the copies of `0x` that it starts with. -/
def dropMarks : List Char → List Char
  | '0' :: 'x' :: rest => dropMarks rest
  | text => text

/-- The key that `f` reads from the given hexadecimal text, which may be marked by `0x`. -/
def ofHexIn (f : KeyFormat) (text : String) : Except KeyError PublicKey :=
  match Hex.decode (String.ofList (dropMarks text.toList)) with
  | .ok bytes => ofBytesIn f bytes
  | .error cause => .error (.hexDecode cause)

def ofHex : String → Except KeyError PublicKey := ofHexIn .secp256k1

instance : ToString PublicKey := ⟨fun k => "0x" ++ k.toHex⟩

/-- The key under the name of its type. -/
def describe (k : PublicKey) : String := "PublicKey(" ++ k.toHex ++ ")"

end PublicKey

end SlotConsensus
