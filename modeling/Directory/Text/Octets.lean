/-! Octet strings: the values a directory stores and the frames that travel.
Text is stored as UTF-8; numbers are four octets, the most significant first. -/
namespace Directory

abbrev Octets := List UInt8

namespace Octets

def ofText (text : String) : Octets := text.toByteArray.data.toList

def text? (octets : Octets) : Option String := String.fromUTF8? ⟨octets.toArray⟩

theorem text?_ofText (text : String) : text? (ofText text) = some text := by
  simp only [text?, ofText, String.fromUTF8?, Array.toArray_toList]
  exact dif_pos text.isValidUTF8

theorem ofText_of_text? {octets : Octets} {text : String} (h : text? octets = some text) :
    ofText text = octets := by
  unfold text? String.fromUTF8? at h
  split at h
  · cases h
    simp [ofText, String.fromUTF8]
  · cases h

theorem text?_eq_some_iff {octets : Octets} {text : String} :
    text? octets = some text ↔ octets = ofText text :=
  ⟨fun h => (ofText_of_text? h).symm, fun h => h ▸ text?_ofText text⟩

def ofNumber (n : UInt32) : Octets :=
  [UInt8.ofNat (n.toNat / 16777216), UInt8.ofNat (n.toNat / 65536),
    UInt8.ofNat (n.toNat / 256), UInt8.ofNat n.toNat]

def number (a b c d : UInt8) : UInt32 :=
  UInt32.ofNat (((a.toNat * 256 + b.toNat) * 256 + c.toNat) * 256 + d.toNat)

def number? : Octets → Option UInt32
  | [a, b, c, d] => some (number a b c d)
  | _ => none

theorem number?_ofNumber (n : UInt32) : number? (ofNumber n) = some n := by
  have bound : n.toNat < 4294967296 := n.toNat_lt
  simp only [ofNumber, number?, number, Option.some.injEq]
  apply UInt32.toNat_inj.mp
  simp only [UInt32.toNat_ofNat', UInt8.toNat_ofNat']
  omega

theorem ofNumber_number (a b c d : UInt8) : ofNumber (number a b c d) = [a, b, c, d] := by
  have ha := a.toNat_lt
  have hb := b.toNat_lt
  have hc := c.toNat_lt
  have hd := d.toNat_lt
  simp only [ofNumber, number, List.cons.injEq, and_true, ← UInt8.toNat_inj,
    UInt32.toNat_ofNat', UInt8.toNat_ofNat']
  omega

theorem ofNumber_of_number? {octets : Octets} {n : UInt32} (h : number? octets = some n) :
    ofNumber n = octets := by
  unfold number? at h
  split at h
  · cases h
    exact ofNumber_number ..
  · cases h

end Octets

end Directory
