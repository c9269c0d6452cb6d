import FprimeGds.Proofs.Bridge.Main

/-! # The life of the bridge application

If no one deletes the task, it drives the topology only between setup and teardown, errors of the
dispatch neither stop it nor change its exit status, and a failed initialization never touches the
topology at all.
-/

namespace FprimeGds.Soundness.BridgeLifecycle

open Machine Model Model.Bridge Proofs.Bridge

/-- A task whose initialization fails exits with APP_ERROR and does nothing else. Any other sets the
topology up, makes the iterations its turns say, and, once a dispatch or cFE has ended the loop, tears
the topology down once and exits with the status the loop left. -/
theorem lifecycle_exact (apids : PacketApids) (services : InitServices) (turns : List Turn)
    (state : TopologyState) :
    let calls := lifecycle ((main apids services turns).run state).trace
    if Succeeds services (downlinkApids apids) then
      ∃ count ended, Looped turns count ended ∧
        calls = called .setupTopology ++ (List.replicate count iteration).flatten ++ ending ended
    else calls = [.exitApp .appError] := by
  intro calls
  split_ifs with succeeds
  · exact main_succeeded succeeds turns state
  · exact main_failed succeeds turns state

end FprimeGds.Soundness.BridgeLifecycle
