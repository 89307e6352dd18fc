import Directory.Wire.Item
/-! Items are written into one buffer, each behind what is there already. How long the content of a group is
turns out behind it: four octets keep the place of the length, and are replaced when the content is written. -/
namespace Directory.Wire

def patch (buffer : Octets) (start : Nat) (octets : Octets) : Octets :=
  buffer.take start ++ octets ++ buffer.drop (start + octets.length)

theorem patch_append (before old after octets : Octets) (same : octets.length = old.length) :
    patch (before ++ (old ++ after)) before.length octets = before ++ (octets ++ after) := by
  rw [patch, List.take_left, same, ← List.append_assoc before old, ← List.length_append, List.drop_left,
    List.append_assoc]

namespace Item

mutual
def put (buffer : Octets) : Item → Octets
  | .octets tag content => buffer ++ element tag content
  | .number tag n => buffer ++ element tag (Octets.ofNumber n)
  | .flag value => buffer ++ element Tag.boolean [if value then 0xff else 0x00]
  | .group tag items =>
    let start := buffer.length + 1
    let filled := putAll (buffer ++ tag :: Octets.ofNumber 0) items
    patch filled start (Octets.ofNumber (UInt32.ofNat (filled.length - start - 4)))
def putAll (buffer : Octets) : List Item → Octets
  | [] => buffer
  | item :: rest => putAll (put buffer item) rest
end

mutual
/-- What was there stays, and the item stands behind it. -/
theorem put_eq (buffer : Octets) (item : Item) : put buffer item = buffer ++ write item := by
  cases item with
  | octets | number | flag => rfl
  | group tag items =>
    have filled : putAll (buffer ++ tag :: Octets.ofNumber 0) items =
        (buffer ++ [tag]) ++ (Octets.ofNumber 0 ++ writeAll items) := by
      rw [putAll_eq]
      simp
    have start : buffer.length + 1 = (buffer ++ [tag]).length := by simp
    have counted : ((buffer ++ [tag]) ++ (Octets.ofNumber 0 ++ writeAll items)).length -
        (buffer ++ [tag]).length - 4 = (writeAll items).length := by
      have place : (Octets.ofNumber 0).length = 4 := rfl
      simp only [List.length_append, place]
      omega
    have patched := patch_append (buffer ++ [tag]) (Octets.ofNumber 0) (writeAll items)
      (Octets.ofNumber (UInt32.ofNat (writeAll items).length)) rfl
    rw [put, filled, start, counted, patched, write, element, List.append_assoc, List.singleton_append]
theorem putAll_eq (buffer : Octets) (items : List Item) : putAll buffer items = buffer ++ writeAll items := by
  cases items with
  | nil => exact (List.append_nil buffer).symm
  | cons item rest => rw [putAll, put_eq buffer item, putAll_eq, List.append_assoc, writeAll]
end

end Item

end Directory.Wire
