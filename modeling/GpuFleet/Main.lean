import GpuFleet.Json.Text
import GpuFleet.Policy.Schema

/-!
Prints the custom resource definition of cluster policies as JSON.
-/

def main : IO Unit := IO.println GpuFleet.Policy.ClusterPolicy.definition.canonical
