import VmDeploy.Instance.Basic
import VmDeploy.Stemcell

/-!
# Deployments

A deployment is torn down from the back: its instances, then its disks, then
its stemcells, the last of each first. An element is dropped when it is
deleted. After a failure the deployment holds what is left, so that the
teardown can be taken up again.

This is the deployer's `Deployment`, with its `delete`.
-/

set_option autoImplicit false

namespace VmDeploy

/-- What was deployed and how long its agents are pinged before they are given up. -/
structure Deployment where
  instances : List Instance
  disks : List Disk
  stemcells : List Stemcell
  pingTimeout : Duration
  pingDelay : Duration

namespace Deployment

/-- Deletes elements one after the other up to the first failure; the result holds what is
left, the element that failed in the state in which it was left. -/
def deleteInTurn {α : Type} (delete : α → ServiceProgram (Except Failure Unit × α)) :
    List α → ServiceProgram (Except Failure Unit × List α)
  | [] => return (.ok (), [])
  | x :: rest => do
    match ← delete x with
    | (.ok (), _) => deleteInTurn delete rest
    | (.error f, x) => return (.error f, x :: rest)

/-- Deletes the elements of a list from the back. -/
def deleteFromBack {α : Type} (delete : α → ServiceProgram (Except Failure Unit × α))
    (elements : List α) : ServiceProgram (Except Failure Unit × List α) := do
  let (result, left) ← deleteInTurn delete elements.reverse
  return (result, left.reverse)

/-- Deletes an instance. -/
def deleteInstance (d : Deployment) (i : Instance) :
    ServiceProgram (Except Failure Unit × Instance) :=
  ((Instance.delete d.pingTimeout d.pingDelay).run).run i

/-- Deletes a disk as a step. -/
def deleteDisk (disk : Disk) : ServiceProgram (Except Failure Unit × Disk) := do
  let step := Action.deletionStep s!"Deleting disk '{disk.cid.text}'" .diskNotFound disk.delete
  return (← step.run, disk)

/-- Deletes an image as a step. -/
def deleteStemcell (s : Stemcell) : ServiceProgram (Except Failure Unit × Stemcell) := do
  let step := Action.deletionStep s!"Deleting stemcell '{s.cid.text}'" .stemcellNotFound s.delete
  return (← step.run, s)

/-- Tears a deployment down; the second part of the result is what is left of it. -/
def delete (d : Deployment) : ServiceProgram (Except Failure Unit × Deployment) := do
  let (result, instances) ← deleteFromBack d.deleteInstance d.instances
  let d := { d with instances }
  match result with
  | .error f => return (.error f, d)
  | .ok () =>
    let (result, disks) ← deleteFromBack deleteDisk d.disks
    let d := { d with disks }
    match result with
    | .error f => return (.error f, d)
    | .ok () =>
      let (result, stemcells) ← deleteFromBack deleteStemcell d.stemcells
      return (result, { d with stemcells })

end Deployment

end VmDeploy
