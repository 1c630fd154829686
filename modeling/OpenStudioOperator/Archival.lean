import OpenStudioOperator.Config

/-!
# Archival Job generator

The Job name is a function of the analysis id alone; the manifest carries the
backend, the destination and the copy-then-check script.
-/

namespace OpenStudioOperator

/-- The two library functions the generator calls on text. -/
structure TextOps where
  lower : String -> String
  sha256Hex : String -> String

def nfsMountPath : String := "/mnt/openstudio"

def assetRoot : String := "server/assets"

def rcloneRemoteName : String := "archive"

def jobNameHead : String := "oscm-archive-"

def maxNameLen : Nat := 63

def digestLen : Nat := 8

/-!
## Job names
-/

/-- The characters `[a-z0-9-]` a sanitised id keeps. -/
def keptInJobName (c : Char) : Bool :=
  ('a' ≤ c && c ≤ 'z') || ('0' ≤ c && c ≤ '9') || c = '-'

/-- `re.sub(r"[^a-z0-9-]+", "-", _)`: every maximal run of other characters
becomes one dash.  The flag says that the run's dash is already written. -/
def sanitizeChars : Bool -> List Char -> List Char
  | _, [] => []
  | inRun, c :: rest =>
      if keptInJobName c then c :: sanitizeChars false rest
      else if inRun then sanitizeChars true rest
      else '-' :: sanitizeChars true rest

def stripRight (cs : List Char) : List Char :=
  (cs.reverse.dropWhile (· = '-')).reverse

def strip (cs : List Char) : List Char :=
  stripRight (cs.dropWhile (· = '-'))

def archivalJobName (text : TextOps) (analysisId : String) : String :=
  let digest := (text.sha256Hex analysisId).toList.take digestLen
  let sanitized := strip (sanitizeChars false (text.lower analysisId).toList)
  if sanitized.isEmpty then
    jobNameHead ++ String.ofList digest
  else
    let budget := maxNameLen - jobNameHead.length - digestLen - 1
    let cut := stripRight (sanitized.take budget)
    jobNameHead ++ String.ofList cut ++ "-" ++ String.ofList digest

/-!
## The archive script
-/

/-- The characters `shlex.quote` leaves unquoted. -/
def shellSafe (c : Char) : Bool :=
  c.isAlphanum || c ∈ ['_', '@', '%', '+', '=', ':', ',', '.', '/', '-']

def shlexQuote (s : String) : String :=
  if s.isEmpty then "''"
  else if s.toList.all shellSafe then s
  else
    "'" ++ String.join
      (s.toList.map fun c => if c = '\'' then "'\"'\"'" else c.toString) ++ "'"

def archiveSources (analysisId : String) (datapointIds : List String) :
    List (String × String) :=
  (s!"{nfsMountPath}/{assetRoot}/analyses/{analysisId}",
      s!"analyses/{analysisId}") ::
    datapointIds.map fun dpId =>
      (s!"{nfsMountPath}/{assetRoot}/data_points/{dpId}",
        s!"data_points/{dpId}")

def archiveScript (analysisId bucket : String) (datapointIds : List String) :
    String :=
  let destRoot := s!"{rcloneRemoteName}:{bucket}/{analysisId}"
  let head := [
    "set -eu",
    "",
    "# Generated by openstudio-server-operator (issue #15, D09) — do not edit.",
    "# Copies one analysis's NFS asset trees with rclone, then verifies each",
    "# with `rclone check` (size + hash). ANY mismatch exits nonzero: a",
    "# Completed Job is the verified-upload gate.",
    "dest=" ++ shlexQuote destRoot,
    "",
    "copy_check() \x7b",
    "    src=\"$1\"",
    "    rel=\"$2\"",
    "    if [ ! -d \"$src\" ]; then",
    "        echo \"archival: ERROR: source directory missing on NFS: $src\" >&2",
    "        return 1",
    "    fi",
    "    echo \"archival: copy $src -> $dest/$rel\"",
    "    rclone copy \"$src\" \"$dest/$rel\"",
    "    echo \"archival: verify (size+hash) $src <=> $dest/$rel\"",
    "    rclone check \"$src\" \"$dest/$rel\"",
    "\x7d",
    ""]
  let body := (archiveSources analysisId datapointIds).map fun source =>
    "copy_check " ++ shlexQuote source.1 ++ " " ++ shlexQuote source.2
  let tail := [
    "",
    "echo \"archival: all asset trees copied and verified (size+hash)\"",
    ""]
  String.intercalate "\n" (head ++ body ++ tail)

/-!
## The manifest

Only the input-dependent fields are kept: the rest of the manifest is constant.
-/

structure ArchivalJob where
  name : String
  jobNamespace : String
  backend : String
  remoteType : String
  analysisId : String
  archiveDestination : String
  secretRef : String
  script : String
deriving DecidableEq, Repr

def rcloneBackendType : String -> Option String
  | "s3" => some "s3"
  | "gcs" => some "gcs"
  | "azure" => some "azureblob"
  | _ => none

/-- A present and non-empty text, as Python truthiness reads an optional one. -/
def truthy : Option String -> Bool
  | none => false
  | some s => !s.isEmpty

/-- `build_archival_job`; the error is the message of its `ValueError`. -/
def buildArchivalJob (text : TextOps) (analysisId : String)
    (policy : StoragePolicy) (jobNamespace : String)
    (datapointIds : List String) : Except String ArchivalJob :=
  if analysisId.isEmpty then
    .error "analysis_id must be non-empty"
  else
    match policy.backend.bind rcloneBackendType with
    | none =>
        .error ("storagePolicy.backend must be one of ['azure', 'gcs', 's3'], got " ++
          (policy.backend.map fun b => "'" ++ b ++ "'").getD "None")
    | some remoteType =>
        if !truthy policy.bucket then
          .error "storagePolicy.bucket is required to generate an archival Job"
        else if !truthy policy.secretRef then
          .error "storagePolicy.secretRef is required to generate an archival Job"
        else
          let bucket := policy.bucket.getD ""
          .ok {
            name := archivalJobName text analysisId
            jobNamespace := jobNamespace
            backend := policy.backend.getD ""
            remoteType := remoteType
            analysisId := analysisId
            archiveDestination := s!"{rcloneRemoteName}:{bucket}/{analysisId}"
            secretRef := policy.secretRef.getD ""
            script := archiveScript analysisId bucket datapointIds }

end OpenStudioOperator
