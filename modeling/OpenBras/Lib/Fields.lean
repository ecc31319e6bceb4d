/-
  File:      OpenBras/Lib/Fields.lean
  Subject:   RECORDS IN MEMORY: fields that are written one behind the other, and cut out again.

  * `putFields fs i m`   -- the fields copied into `m`, the first at position `i`;
  * `fieldsAt m ns i`    -- the pieces of `m` of the sizes `ns`, the first at position `i`;
  * `putFields_eq`       -- what is written stands in front of what was behind it;
  * `fieldsAt_flatten`   -- the fields of a record come back.
-/
import OpenBras.Lib.Wire

namespace OpenBras

namespace Wire

theorem memcpy_next (w buffer q : Bytes) :
    memcpy (w ++ buffer.drop w.length) w.length q =
      w ++ q ++ buffer.drop (w ++ q).length := by
  rw [memcpy_append, List.drop_drop, List.length_append]

/-- The fields, one behind the other from position `i` on. -/
def putFields : List Bytes → Nat → Bytes → Bytes
  | [], _, m => m
  | f :: fs, i, m => putFields fs (i + f.length) (memcpy m i f)

theorem putFields_eq (fs : List Bytes) (w buffer : Bytes) :
    putFields fs w.length (w ++ buffer.drop w.length) =
      w ++ fs.flatten ++ buffer.drop (w ++ fs.flatten).length := by
  induction fs generalizing w with
  | nil => rw [putFields, List.flatten_nil, List.append_nil]
  | cons f fs ih =>
    rw [putFields, memcpy_next, ← List.length_append, ih, List.flatten_cons, List.append_assoc w]

/-- The pieces of the given sizes, one behind the other from position `i` on. -/
def fieldsAt (m : Bytes) : List Nat → Nat → List Bytes
  | [], _ => []
  | n :: ns, i => bytesAt m i n :: fieldsAt m ns (i + n)

theorem fieldsAt_flatten (fs : List Bytes) (w r : Bytes) :
    fieldsAt (w ++ fs.flatten ++ r) (fs.map List.length) w.length = fs := by
  induction fs generalizing w with
  | nil => rfl
  | cons f fs ih =>
    have hmem : w ++ (f :: fs).flatten ++ r = w ++ f ++ (fs.flatten ++ r) := by
      simp only [List.flatten_cons, List.append_assoc]
    rw [List.map_cons, fieldsAt, hmem, bytesAt_append, ← List.append_assoc,
      ← List.length_append, ih]

end Wire

end OpenBras
