import ApiTypes.Conversion
import ApiTypes.Proofs.Disk.Write
import ApiTypes.Proofs.Json.RoundTrip
import ApiTypes.Proofs.Text.Utf8
import ApiTypes.Snapshot
/-!
# Documents that are saved or passed on

A document without doubles that was read can be saved in its indented form and passed to a converter
in its compact form, and nothing is lost either way (`read_again`).
-/
namespace ApiTypes

namespace Disk

variable {d d' : Disk} {path text : Text}

theorem readText_of_writeText (h : d.writeText path text = (d', .ok ())) :
    d'.readText path = .ok text := by
  rw [readText, entryAt_of_writeText h]
  dsimp only
  rw [Text.ofUtf8_utf8]

end Disk

namespace Conversion

def runOn (d : Disk) (name : Text) (args : List Text) (input : Octets) :
    Disk × Except ConversionFault Text :=
  match start d name args with
  | .error fault => (d, .error (.cannotStart name fault))
  | .ok program =>
    let (d, f) := runProgram d program (Octets.ofText name) (args.map Octets.ofText) input
    (d, ofFinished name f)

theorem run_eq (d : Disk) (name : Text) (args : List Text) (document : Json) :
    run d name args document = runOn d name args (Octets.ofText document.render) := rfl

end Conversion

/-- **Documents that were read are read again.**  If a document has no doubles, the file it is saved
to holds its indented form, which loads as the document, and a converter gets its compact form as
input, the bytes of which stand for the document, too. -/
theorem read_again {t : Text} {v : Json} (hparse : Document.parse t = .ok v)
    (hdouble : v.hasDouble = false) :
    (∀ (d : Disk) (path : Text) (d' : Disk), d.saveDocument path v = (d', .ok ()) →
      d'.readText path = .ok v.renderIndented ∧ d'.load path = .ok v) ∧
    ∃ input : Octets,
      (∀ d name args, Conversion.run d name args v = Conversion.runOn d name args input) ∧
      Text.ofUtf8 input.toBytes = .ok v.render ∧ Document.parse v.render = .ok v := by
  have hwithin := Document.within_of_parse hparse
  refine ⟨fun d path d' hsave => ?_, Octets.ofText v.render, fun d name args => ?_, ?_, ?_⟩
  · have htext := Disk.readText_of_writeText hsave
    refine ⟨htext, Attempt.bind_eq_ok_iff.2 ⟨_, htext, ?_⟩⟩
    exact Document.parse_renderAt Json.blank_indented 0 hwithin hdouble
  · exact Conversion.run_eq d name args v
  · rw [Octets.ofText, Octets.toBytes_ofBytes, Text.ofUtf8_utf8]
  · exact Document.parse_renderAt Json.blank_compact 0 hwithin hdouble

/-- Numbers at both ends of their range, a key that comes twice, empty containers, escapes and a
surrogate pair. -/
def motleyText : Text :=
  "\x7b\"b\": 0, \"a\": \"\\u0001\\\"\\\\\\ud83d\\ude00\", \"b\": [-9223372036854775808, 18446744073709551615, [], \x7b\x7d]\x7d"

def motleyRender : Text :=
  "\x7b\"b\":[-9223372036854775808,18446744073709551615,[],\x7b\x7d],\"a\":\"\\u0001\\\"\\\\😀\"\x7d"

theorem read_again_motley : ∃ v d', Document.parse motleyText = .ok v ∧ v.hasDouble = false ∧
    v.render = motleyRender ∧
    Disk.saveDocument (.blank ["work"]) "saved/api.json" v = (d', .ok ()) ∧
    d'.load "saved/api.json" = .ok v ∧ Document.parse motleyRender = .ok v := by
  have hmotley : (Document.parse motleyText).map (fun v => (v.hasDouble, v.render)) =
      .ok (false, motleyRender) := by
    decide +kernel
  have hsaved : (Document.parse motleyText).map
      (fun v => (Disk.saveDocument (.blank ["work"]) "saved/api.json" v).2) = .ok (.ok ()) := by
    decide +kernel
  cases hparse : Document.parse motleyText with
  | error f =>
    rw [hparse] at hmotley
    cases hmotley
  | ok v =>
    rw [hparse] at hmotley hsaved
    obtain ⟨hdouble, hrender⟩ := Prod.mk.inj (Except.ok.inj hmotley)
    obtain ⟨hload, _, _, _, hcompact⟩ := read_again hparse hdouble
    have hsave : Disk.saveDocument (.blank ["work"]) "saved/api.json" v =
        ((Disk.saveDocument (.blank ["work"]) "saved/api.json" v).1, .ok ()) :=
      Prod.ext rfl (Except.ok.inj hsaved)
    exact ⟨v, _, rfl, hdouble, hrender, hsave, (hload _ _ _ hsave).2, hrender ▸ hcompact⟩

end ApiTypes
