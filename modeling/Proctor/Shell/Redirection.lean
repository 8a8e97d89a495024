import Proctor.Shell.Expansion

/-!
# Redirections

Redirections change what the descriptors of the shell mean, while a command is executed or
for good. What a descriptor meant before is kept at another one, out of the way.
-/
namespace Proctor.Shell

/-- The descriptors that were changed, the newest first, each with the one that keeps what
it meant, if it meant anything. -/
abbrev Kept := List (Nat × Option Nat)

namespace Kept

/-- Gives the descriptors their old meaning back. -/
def restore : Kept → Act Unit
  | [] => return ()
  | (descriptor, kept) :: rest => do
    match kept with
    | some above =>
      let _ ← Act.ask (.duplicate above descriptor)
      Act.ask (.close above)
    | none => Act.ask (.close descriptor)
    restore rest

/-- Forgets what the descriptors meant. -/
def forget (kept : Kept) : Act Unit := do
  for (_, above) in kept do
    match above with
    | some above => Act.ask (.close above)
    | none => pure ()

end Kept

/-- How the system is asked to open a file. -/
def Opening.mode : Opening → Machine.Mode
  | .read => .read
  | .write => .write
  | .append => .append
  | .update => .update

/-- The wording of an error that has to do with a file that is used, made or executed. -/
def errorText (e : SystemError) (missing : String) : Octets :=
  if e = .notFound || e = .notDirectory then missing.toList else Octets.ofString e.reason

/-- Says why a file cannot be opened. -/
def Opening.complain {α : Type} (opening : Opening) (name : Octets) (e : SystemError) : Act α :=
  let (what, missing) :=
    if opening = .read then ("cannot open ", "No such file")
    else ("cannot create ", "Directory nonexistent")
  Act.fail (Octets.ofString what ++ name ++ [':', ' '] ++ errorText e missing)

/-- Says that a descriptor means nothing. -/
def badDescriptor {α : Type} (name : Octets) : Act α :=
  Act.fail (name ++ Octets.ofString ": Bad file descriptor")

/-- The descriptor that a redirection changes. -/
def Redirect.descriptor : Redirect → Nat
  | .file descriptor _ _ => descriptor
  | .copy descriptor _ => descriptor
  | .text descriptor _ => descriptor

/-- Performs a redirection. -/
def Redirect.perform (substitute : Command → Act Octets) : Redirect → Act Unit
  | .file descriptor opening word => do
    let name ← expandText substitute word
    match ← Act.ask (.openAt descriptor name opening.mode) with
    | .ok () => return ()
    | .error e => opening.complain name e
  | .copy descriptor word => do
    let source ← expandText substitute word
    if source = ['-'] then Act.ask (.close descriptor)
    else
      match Octets.toNat? source with
      | some n =>
        match ← Act.ask (.duplicate n descriptor) with
        | .ok () => return ()
        | .error _ => badDescriptor source
      | none => Act.fail (Octets.ofString "Syntax error: Bad fd number")
  | .text descriptor word => do
    let body := Mark.toText (← expandParts substitute word)
    let (out, into) ← Act.ask .pipe
    let _ ← Act.ask (.write into body)
    Act.ask (.close into)
    let _ ← Act.ask (.duplicate out descriptor)
    Act.ask (.close out)

/-- Performs redirections from left to right. If one fails, all are undone. -/
def redirect (substitute : Command → Act Octets) (kept : Kept) : List Redirect → Act Kept
  | [] => return kept
  | r :: rest => do
    let above ← Act.ask (.stash r.descriptor)
    let kept : Kept := (r.descriptor, above) :: kept
    match ← (r.perform substitute).observe with
    | .ok () => redirect substitute kept rest
    | .error flow =>
      kept.restore
      throw flow

end Proctor.Shell
