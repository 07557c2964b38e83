/-
**Parameters come over the line as they were.**

The line of some parameters is read as these parameters: the same texts under the same names, in the same
order. Any pairs can be written as a line, also several under one name; then the name keeps the place of the
first of them and has the text of the last.

* `Params.read_as_written` — the line of some parameters, and the line of any pairs.
-/

import ReactiveView.Message.Params
import ReactiveView.Proofs.Data.Entries
import ReactiveView.Proofs.Text.FormEncoding

namespace ReactiveView.Params

/-- The parameters of a line that was written of pairs. -/
theorem decode_of_pairs (pairs : List (String × String)) :
    decode (FormEncoding.encode pairs) = ⟨OrderedMap.ofList pairs⟩ := by
  rw [decode, FormEncoding.decode_encode]

/-- The line of some parameters is read as these parameters. -/
theorem decode_line (params : Params) : decode params.encode = params := by
  rw [encode, decode_of_pairs, OrderedMap.ofList_entries]

/--
**Parameters come over the line as they were**, whatever is in their names and texts. Of a line that was
written of any pairs each name is read once, at the place of its first pair and with the text of its last.
-/
theorem read_as_written :
    (∀ params : Params, decode params.encode = params) ∧
    ∀ pairs : List (String × String),
      (decode (FormEncoding.encode pairs)).texts.keys = (pairs.map Prod.fst).eraseDups ∧
      ∀ name, (decode (FormEncoding.encode pairs)).get? name = pairs.reverse.lookup name := by
  refine ⟨decode_line, fun pairs => ⟨?_, fun name => ?_⟩⟩
  · rw [decode_of_pairs]
    exact OrderedMap.keys_ofList pairs
  · rw [decode_of_pairs]
    exact OrderedMap.get?_ofList pairs name

end ReactiveView.Params
