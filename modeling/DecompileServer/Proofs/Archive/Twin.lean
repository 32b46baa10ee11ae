import DecompileServer.Proofs.Archive.Extraction
import DecompileServer.Proofs.Disk.Twin

/-!
# Extracting into twins

Extracting an entry into one of two directories with the same content and into the other gives the
same and leaves directories with the same content (`agree_extractEntry`).
-/
namespace DecompileServer.Archive

open Disk (Location Tree)
open Host (Enclosed Peers Twins)
open Effect (Agree)
open DecompileServer.Path (Gap)

variable {root : Path} {first second : String} {base copy : Location}

section Twinned

variable (peers : Peers root first second)
include peers

/-- Writing an entry agrees along paths that go on alike from twins. -/
theorem agree_writeEntry {gap : Gap} {rest : List String} (fits : gap.Fits root rest)
    (enclosed : Enclosed rest) (packed : Packed) :
    Agree (Twins root first second base copy) (writeEntry (gap.fill first) packed)
      (writeEntry (gap.fill second) packed) := by
  have written : Agree (Twins root first second base copy)
      (do
        Host.change fun host => host.write (gap.fill first) packed.read.content
        pure packed.read.fault : Effect Disk.Fault (Option Fault))
      (do
        Host.change fun host => host.write (gap.fill second) packed.read.content
        pure packed.read.fault) :=
    (Agree.change fun _ _ => Host.alike_write peers fits enclosed _).bind fun _ => Agree.pure _
  unfold writeEntry
  refine Agree.get fun host other twins => ?_
  obtain ⟨above, upper, found, found', same, made⟩ := twins.agree_parent peers fits enclosed
  simp only [found, found', same]
  split
  · rename_i missing
    exact (made (by simpa using missing)).bind fun _ => written
  · exact written

/-- Extracting an entry into twins agrees. -/
theorem agree_extractEntry (entry : Entry) :
    Agree (Twins root first second base copy) (extractEntry (root.join first) entry)
      (extractEntry (root.join second) entry) := by
  unfold extractEntry
  refine (Agree.lift _).bind fun packed => ?_
  dsimp only
  split
  · exact Agree.throw_bind _
  · rename_i accepted
    have inside : isEnclosed entry.name = true := by simpa using accepted
    obtain ⟨relative, enclosed⟩ := enclosed_of_isEnclosed inside
    have fits := Gap.fits_into peers.absolute entry.name
    rw [← Gap.fill_into peers.absolute peers.first relative,
      ← Gap.fill_into peers.absolute peers.second relative]
    split
    · exact Agree.adapt (Host.agree_makeDirectories peers fits enclosed) _
    · refine (Agree.adapt (agree_writeEntry peers fits enclosed packed) _).bind fun fault => ?_
      cases fault with
      | none => exact Agree.pure _
      | some fault => exact Agree.throw _

end Twinned

end DecompileServer.Archive
