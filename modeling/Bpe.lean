import Bpe.Admission.Matrix
import Bpe.Aggregate.PassAtK
import Bpe.Artifact.Sound
import Bpe.Cgroup.Events
import Bpe.Corpus.Exhaustive
import Bpe.Corpus.Fingerprint
import Bpe.Dispatch.Base64url
import Bpe.Dispatch.Lineage
import Bpe.Json.Complexity
import Bpe.Launch.Committed
import Bpe.Launcher.Child
import Bpe.Launcher.Procs
import Bpe.Oracle.Total
import Bpe.Orchestration.Control
import Bpe.Orchestration.Observation
import Bpe.Orchestration.Signal
import Bpe.Qualification.Acyclic
import Bpe.Qualification.Matrix
import Bpe.Task.Lint
import Bpe.Task.Load
import Bpe.Text.Submission
