import Telematics.Proofs.Position.Marks

namespace Telematics.Position

open Sentence

variable {p : Position} {n : Int} {r : Report}

def numbered (p : Position) (n : Int) : Position :=
  { p with deviceId := n }

lemma complete_numbered : (p.numbered n).complete r = (·.numbered n) <$> p.complete r :=
  (map_complete fun _ => rfl).symm

lemma withHeader_numbered (h : Header) :
    (p.numbered n).withHeader h = (·.numbered n) <$> p.withHeader h := by
  cases h with
  | telemetry status event history =>
    simp only [withHeader, map_bind, map_pure]
    rfl
  | kind name => rfl

lemma withStatus_numbered (status : Slot) :
    (p.numbered n).withStatus status = (p.withStatus status).numbered n := by
  rw [withStatus, withStatus]
  cases status.bind Alarm.ofStatus? with
  | none => rfl
  | some alarm => rfl

lemma withValidity_numbered (i : Identity) (letter : Slot) :
    (p.numbered n).withValidity i letter = (·.numbered n) <$> p.withValidity i letter := by
  cases i with
  | status code => rfl
  | validity token =>
    simp only [withValidity, map_bind, map_pure]
    rfl

lemma ofReport_eq_complete (n : Int) (r : Report) : ofReport n r =
    (({ deviceId := n } : Position).withHeader r.header).mapError .conversion >>= fun p =>
      ((p.withStatus (effectiveStatus r.header r.identity)).withValidity r.identity
        r.validity).mapError .conversion >>= fun p => p.complete r := rfl

theorem ofReport_numbered (m n : Int) (r : Report) :
    ofReport n r = (·.numbered n) <$> ofReport m r := by
  have header : ({ deviceId := n } : Position).withHeader r.header =
      (·.numbered n) <$> ({ deviceId := m } : Position).withHeader r.header :=
    withHeader_numbered (p := { deviceId := m }) r.header
  rw [ofReport_eq_complete, ofReport_eq_complete, header]
  simp only [map_bind, mapError_map, bind_map_left, withStatus_numbered, withValidity_numbered,
    complete_numbered]

end Telematics.Position
