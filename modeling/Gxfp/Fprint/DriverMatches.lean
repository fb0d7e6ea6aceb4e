import Gxfp.Fprint.DriverRuns

/-!
# What a match is worth

A verification or an identification that ends without an error has compared a
scan of a captured image with the templates.  Its outcome is stated here in terms
of the scores of the sub-prints, which must reach the default threshold of
bozorth3: the driver sets none of its own.
-/

namespace Gxfp.Fprint

open Lib.Execution
open Lib.Serving
open Gxfp.User

section Matches

variable {cv : OpenCv} {E α : Type} (sigfm : SigfmLibrary cv α)

/-- The score of a sub-print against a scan. -/
def scoreOf (info pinfo : SigfmImgInfo cv) : Int32 :=
  sigfmMatchScore sigfm.measure sigfm.matcher pinfo info

/-- A score below the threshold that is not an error. -/
def Falls (info pinfo : SigfmImgInfo cv) : Prop :=
  ¬ scoreOf sigfm info pinfo < 0 ∧ ¬ scoreOf sigfm info pinfo ≥ 40

/-- The first sub-print of a template that does not fall below the threshold
reaches it. -/
def Hits (info : SigfmImgInfo cv) (template : FpPrint cv) : Prop :=
  ∃ front pinfo rest, template.prints = .sigfm (front ++ pinfo :: rest) ∧
    (¬ scoreOf sigfm info pinfo < 0 ∧ scoreOf sigfm info pinfo ≥ 40) ∧
    ∀ before ∈ front, Falls sigfm info before

/-- All sub-prints of a template fall below the threshold. -/
def Misses (info : SigfmImgInfo cv) (template : FpPrint cv) : Prop :=
  ∃ prints, template.prints = .sigfm prints ∧ ∀ pinfo ∈ prints, Falls sigfm info pinfo

theorem sigfmMatchLoop_success (info : SigfmImgInfo cv) {prints : List (SigfmImgInfo cv)}
    {error : Option (FpDeviceError × String)}
    (success : sigfmMatchLoop sigfm.measure sigfm.matcher info 40 prints = ⟨.success, error⟩) :
    ∃ front pinfo rest, prints = front ++ pinfo :: rest ∧
      (¬ scoreOf sigfm info pinfo < 0 ∧ scoreOf sigfm info pinfo ≥ 40) ∧
      ∀ before ∈ front, Falls sigfm info before := by
  induction prints with
  | nil => cases success
  | cons pinfo rest ih =>
      unfold sigfmMatchLoop at success
      dsimp only at success
      split at success
      · cases success
      · rename_i sound
        split at success
        · rename_i reaches
          exact ⟨[], pinfo, rest, rfl, ⟨sound, reaches⟩, fun _ member => by cases member⟩
        · rename_i falls
          obtain ⟨front, found, later, rfl, reaches, before⟩ := ih success
          refine ⟨pinfo :: front, found, later, rfl, reaches, ?_⟩
          intro other member
          rcases List.mem_cons.mp member with rfl | earlier
          · exact ⟨sound, falls⟩
          · exact before other earlier

theorem sigfmMatchLoop_fail (info : SigfmImgInfo cv) {prints : List (SigfmImgInfo cv)}
    {error : Option (FpDeviceError × String)}
    (fail : sigfmMatchLoop sigfm.measure sigfm.matcher info 40 prints = ⟨.fail, error⟩) :
    ∀ pinfo ∈ prints, Falls sigfm info pinfo := by
  induction prints with
  | nil =>
      intro pinfo member
      cases member
  | cons pinfo rest ih =>
      unfold sigfmMatchLoop at fail
      dsimp only at fail
      split at fail
      · cases fail
      · rename_i sound
        split at fail
        · cases fail
        · rename_i falls
          intro other member
          rcases List.mem_cons.mp member with rfl | later
          · exact ⟨sound, falls⟩
          · exact ih fail other later

variable {sigfm} (env : Env) (engine : TlsEngine E)

/-- A match of the driver's class compares with the sub-prints of a SIGFM
template, and with the default threshold. -/
theorem matchPrint_loop {template : FpPrint cv} {info : SigfmImgInfo cv} {result : FpiMatchResult}
    (matched : matchPrint (gxfpClass env engine) sigfm template (scannedPrint "gxfp" info) =
      .ok (result, none)) :
    ∃ prints error, template.prints = .sigfm prints ∧
      sigfmMatchLoop sigfm.measure sigfm.matcher info 40 prints = ⟨result, error⟩ := by
  unfold matchPrint fpiPrintSigfmMatch at matched
  cases isPrints : template.prints with
  | sigfm prints =>
      rw [isPrints] at matched
      refine ⟨prints, (sigfmMatchLoop sigfm.measure sigfm.matcher info 40 prints).error, rfl, ?_⟩
      have same : (sigfmMatchLoop sigfm.measure sigfm.matcher info 40 prints).result = result :=
        congrArg Prod.fst (Except.ok.inj matched)
      rw [← same]
  | undefined =>
      rw [isPrints] at matched
      cases matched
  | raw =>
      rw [isPrints] at matched
      cases matched
  | nbis prints =>
      rw [isPrints] at matched
      cases matched

theorem matchPrint_hits {template : FpPrint cv} {info : SigfmImgInfo cv}
    (matched : matchPrint (gxfpClass env engine) sigfm template (scannedPrint "gxfp" info) =
      .ok (.success, none)) : Hits sigfm info template := by
  obtain ⟨prints, error, isPrints, looped⟩ := matchPrint_loop env engine matched
  obtain ⟨front, pinfo, rest, rfl, reaches, before⟩ := sigfmMatchLoop_success sigfm info looped
  exact ⟨front, pinfo, rest, isPrints, reaches, before⟩

theorem matchPrint_misses {template : FpPrint cv} {info : SigfmImgInfo cv}
    (matched : matchPrint (gxfpClass env engine) sigfm template (scannedPrint "gxfp" info) =
      .ok (.fail, none)) : Misses sigfm info template := by
  obtain ⟨prints, error, isPrints, looped⟩ := matchPrint_loop env engine matched
  exact ⟨prints, isPrints, sigfmMatchLoop_fail sigfm info looped⟩

variable (sigfm) in
/-- What a request that matches has been answered with: the outcome of comparing
one scan of a decoded image, with at least 25 keypoints, with the templates of
the request. -/
def Justified (request : Task cv) (returned : Returned cv) : Prop :=
  match request, returned.result with
  | .verify enrolled _, .int result =>
      ∃ img : DecodedImage,
        25 ≤ (sigfm.extract (capturedImage img)).keypoints.length ∧
        ((result = .success ∧ Hits sigfm (sigfm.extract (capturedImage img)) enrolled) ∨
          (result = .fail ∧ Misses sigfm (sigfm.extract (capturedImage img)) enrolled))
  | .identify gallery _, .bool =>
      ∃ img data, 25 ≤ (sigfm.extract (capturedImage img)).keypoints.length ∧
        returned.task = .identify gallery data ∧
        ((data.found = none ∧
            ∀ template ∈ gallery, Misses sigfm (sigfm.extract (capturedImage img)) template) ∨
          ∃ first found rest, data.found = some found ∧ gallery = first ++ found :: rest ∧
            Hits sigfm (sigfm.extract (capturedImage img)) found ∧
            ∀ template ∈ first, Misses sigfm (sigfm.extract (capturedImage img)) template)
  | .verify _ _, result => ∃ error, result = .error error
  | .identify _ _, result => ∃ error, result = .error error
  | _, _ => True

theorem Earned.justified {request : Task cv} {returned : Returned cv}
    (earned : Earned (gxfpClass env engine) sigfm Delivered request returned) :
    Justified sigfm request returned := by
  cases earned with
  | @failed request task same error =>
      cases request with
      | verify enrolled start => exact ⟨error, rfl⟩
      | identify gallery start => exact ⟨error, rfl⟩
      | _ => trivial
  | opened => trivial
  | closed => trivial
  | enrolled infos scanned stages => trivial
  | captured taken => trivial
  | @verified enrolled start data info result scanned matched =>
      obtain ⟨image, ⟨img, rfl⟩, rfl, enough⟩ := scanned
      refine ⟨img, enough, ?_⟩
      cases result with
      | success => exact Or.inl ⟨rfl, matchPrint_hits env engine matched⟩
      | fail => exact Or.inr ⟨rfl, matchPrint_misses env engine matched⟩
      | error =>
          obtain ⟨out, isOut, clean⟩ := matchPrint_ends (gxfpClass env engine) sigfm enrolled
            (sigfm.extract (capturedImage img))
          rw [matched] at isOut
          cases isOut
          rcases clean with ⟨isResult, -⟩ | ⟨error, -, isError⟩
          · exact absurd rfl isResult
          · cases isError
  | @identified gallery start data info scanned identified =>
      obtain ⟨image, ⟨img, rfl⟩, rfl, enough⟩ := scanned
      refine ⟨img, data, enough, rfl, ?_⟩
      cases found : data.found with
      | none =>
          rw [found] at identified
          exact Or.inl ⟨rfl, fun template member =>
            matchPrint_misses env engine (identified template member)⟩
      | some print =>
          rw [found] at identified
          obtain ⟨first, rest, rfl, matched, before⟩ := identified
          exact Or.inr ⟨first, print, rest, rfl, rfl, matchPrint_hits env engine matched,
            fun template member => matchPrint_misses env engine (before template member)⟩

end Matches

end Gxfp.Fprint
