import Intake.Artifact.Sidecar
import Intake.Proofs.Json.Text

/-!
# Sidecars written and read

A sidecar is read back as it was written, whatever its texts are.
-/

namespace Intake.Artifact

open Bytes (ofString)
open Json (textTail)

theorem Status.lookup_name (s : Status) : Status.names.lookup s.name = some s := by
  cases s <;> decide

theorem Metadata.fileNameOf_optional (o : Option String) : fileNameOf (.optional o) = .ok o := by
  cases o <;> rfl

/-- The members of metadata make that metadata again. -/
theorem Metadata.ofMembers_toJson (m : Metadata) :
    ofMembers [("file_name", .optional m.fileName), ("status", .text m.status.name)] = .ok m := by
  have hname : Draft.add {} "file_name" (.optional m.fileName) =
      .ok { fileName := some m.fileName } := by
    rw [Draft.add, if_pos rfl, if_neg (by simp), fileNameOf_optional]
    rfl
  have hstatus : Draft.add { fileName := some m.fileName } "status" (.text m.status.name) =
      .ok { fileName := some m.fileName, status := some m.status } := by
    rw [Draft.add, if_neg (by decide), if_pos rfl, if_neg (by simp), statusOf, statusNamed,
      Status.lookup_name]
    rfl
  rw [ofMembers, List.foldlM_cons, hname]
  change (Draft.add _ "status" _ >>= pure) >>= Draft.finish = _
  rw [hstatus]
  rfl

namespace Sidecar

/-- The members of a sidecar, as they are written. -/
def written (c : Sidecar) : Bytes :=
  0x22 :: (textTail "media_type" ++ 0x3A :: 0x22 :: (textTail c.mediaType ++
    0x2C :: 0x22 :: (textTail "file_name" ++ 0x3A ::
      (ofString (Json.write (.optional c.metadata.fileName)) ++
    0x2C :: 0x22 :: (textTail "status" ++ 0x3A ::
      (ofString (Json.writeText c.metadata.status.name) ++ [0x7D]))))))

theorem encode_eq (c : Sidecar) : c.encode = 0x7B :: c.written := by
  have hopen : ofString "\x7b" = [0x7B] := by rw [Bytes.ofString_eq]; rfl
  have hclose : ofString "\x7d" = [0x7D] := by rw [Bytes.ofString_eq]; rfl
  have hcolon : ofString ":" = [0x3A] := by rw [Bytes.ofString_eq]; rfl
  have hcomma : ofString "," = [0x2C] := by rw [Bytes.ofString_eq]; rfl
  simp only [encode, written, toJson, Json.write, Json.writeMembers, Bytes.ofString_append,
    Json.ofString_writeText, hopen, hclose, hcolon, hcomma, List.cons_append, List.nil_append,
    List.append_assoc]

variable {fuel : Nat} {d d' : Draft} {n : String} {r s : Bytes}

theorem readMembers_first (h : readMember d n r = .ok (d', s)) :
    readMembers (fuel + 1) true d (0x22 :: (textTail n ++ r)) = readMembers fuel false d' s := by
  rw [readMembers, Json.memberName_first]
  simp only [h]

theorem readMembers_next (h : readMember d n r = .ok (d', s)) :
    readMembers (fuel + 1) false d (0x2C :: 0x22 :: (textTail n ++ r)) =
      readMembers fuel false d' s := by
  rw [readMembers, Json.memberName_next]
  simp only [h]

theorem readMember_mediaType (m : String) :
    readMember {} "media_type" (0x3A :: 0x22 :: (textTail m ++ s)) =
      .ok ({ mediaType := some m }, s) := by
  rw [readMember, if_pos rfl, if_neg (by simp), Json.colon_bind, Json.textValue_textTail]
  rfl

/-- Any other member is kept as it is. -/
theorem readMember_other {v : Json.Value} (hn : n ≠ "media_type")
    (hv : Json.value (Json.depthLimit - 1) r = .ok (v, s)) :
    readMember d n (0x3A :: r) = .ok ({ d with others := (n, v) :: d.others }, s) := by
  rw [readMember, if_neg hn, Json.colon_bind, hv]
  rfl

theorem readMembers_written (c : Sidecar) (fuel : Nat) :
    readMembers (fuel + 4) true {} c.written =
      .ok (⟨some c.mediaType, [("status", .text c.metadata.status.name),
        ("file_name", .optional c.metadata.fileName)]⟩, []) := by
  rw [written, readMembers_first (readMember_mediaType c.mediaType),
    readMembers_next (readMember_other (by decide) (Json.value_optional _ _)),
    readMembers_next (readMember_other (by decide) (Json.value_writeText _)),
    readMembers, Json.memberName_end]

/-- A sidecar is read back as it was written. -/
theorem decode_encode (c : Sidecar) : decode c.encode = .ok c := by
  have hlength : 3 ≤ c.written.length := by
    simp only [written, List.length_cons, List.length_append]
    omega
  obtain ⟨fuel, hfuel⟩ := Nat.exists_eq_add_of_le' hlength
  have hread : read (0x7B :: c.written) = .ok (c, []) := by
    change (readMembers (c.written.length + 1) true {} c.written >>= _) = _
    rw [hfuel, readMembers_written]
    change (Draft.finish _ >>= _) = _
    rw [Draft.finish]
    change ((Metadata.ofMembers [("file_name", _), ("status", _)]).map _ >>= _) = _
    rw [Metadata.ofMembers_toJson]
    rfl
  rw [encode_eq, decode, Json.decode, hread]
  rfl

end Sidecar
end Intake.Artifact
