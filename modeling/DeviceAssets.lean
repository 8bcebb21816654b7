import DeviceAssets.Job
import DeviceAssets.Main
import DeviceAssets.Proofs.Bitmap.Bits
import DeviceAssets.Proofs.Bitmap.Overrun
import DeviceAssets.Proofs.Bitmap.Refusal
import DeviceAssets.Proofs.Bitmap.Thresholding
import DeviceAssets.Proofs.Bitmap.Unpacking
import DeviceAssets.Proofs.Conversion.Loading
import DeviceAssets.Proofs.Conversion.Shapes
import DeviceAssets.Proofs.Conversion.SymbolGrid
import DeviceAssets.Proofs.Document.Balance
import DeviceAssets.Proofs.Document.Ending
import DeviceAssets.Proofs.Document.Extraction
import DeviceAssets.Proofs.Document.LooseText
import DeviceAssets.Proofs.Document.OpenElements
import DeviceAssets.Proofs.Document.Streaming
import DeviceAssets.Proofs.Header.DataBlock
import DeviceAssets.Proofs.Header.DataLines
import DeviceAssets.Proofs.Header.DeclaredSize
import DeviceAssets.Proofs.Header.Escape
import DeviceAssets.Proofs.Header.Splicing
import DeviceAssets.Proofs.Job.History
import DeviceAssets.Proofs.Png.Head
import DeviceAssets.Proofs.Tool.Checks
import DeviceAssets.Proofs.Tool.ExtractedLines
import DeviceAssets.Proofs.Tool.Summary
import DeviceAssets.Proofs.Xml.Closed
