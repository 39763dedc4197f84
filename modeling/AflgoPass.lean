import AflgoPass.Text
import AflgoPass.Ir
import AflgoPass.Loaders
import AflgoPass.Config
import AflgoPass.Instrument
import AflgoPass.Preprocess
import AflgoPass.Ledgers
import AflgoPass.Identity
import AflgoPass.Pass
import AflgoPass.Monitor
import AflgoPass.Distance
import AflgoPass.Bitmap
