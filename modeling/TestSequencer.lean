import TestSequencer.Containers
import TestSequencer.Messages
import TestSequencer.Registry
import TestSequencer.Placement
import TestSequencer.FanOut
import TestSequencer.System
import TestSequencer.Interlock
import TestSequencer.Invariants
import TestSequencer.Preemption
import TestSequencer.Nodes
import TestSequencer.Names
import TestSequencer.Sequence
import TestSequencer.FanOutRuns
import TestSequencer.Locking
import TestSequencer.Safety
import TestSequencer.Aliases
import TestSequencer.Merge
import TestSequencer.DoRunTest
import TestSequencer.Refinement
import TestSequencer.Progress
import TestSequencer.RunTestSequence
