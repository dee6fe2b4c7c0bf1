import Gcsfuse.Storage.Gcs
import Gcsfuse.Go.Chan
import Gcsfuse.Go.Io
import Gcsfuse.Go.Strings
import Gcsfuse.Gcsx.GarbageCollect
import Gcsfuse.Gcsx.Invariants
import Gcsfuse.Gcsx.Progress
import Gcsfuse.Gcsx.Correctness
import Gcsfuse.Gcsx.Cancellation
import Gcsfuse.Gcsx.TcpMonitoring
import Gcsfuse.Bufferedread.DownloadTask
