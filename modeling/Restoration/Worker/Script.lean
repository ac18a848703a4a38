/-
The program that the worker runs. It loads the checkpoint, says whether it
is ready, and then answers one request a line. It is handed over as it is.
-/
import Restoration.Text.Utf8

namespace Restoration.Worker

/-- The lines of the worker program. -/
def scriptLines : List String := [
  "\"\"\"Line-oriented restoration worker driven by aeneas-serve.",
  "",
  "Reads the checkpoint named by AENEAS_CHECKPOINT, then answers one JSON",
  "request per stdin line with one JSON response per stdout line.",
  "\"\"\"",
  "import json",
  "import os",
  "import pickle",
  "import sys",
  "import warnings",
  "",
  "warnings.filterwarnings(\"ignore\", category=RuntimeWarning)",
  "",
  "_stdout = sys.stdout",
  "sys.stdout = sys.stderr",
  "",
  "",
  "def emit(message):",
  "    _stdout.write(json.dumps(message, default=str) + \"\\n\")",
  "    _stdout.flush()",
  "",
  "",
  "def load():",
  "    import jax",
  "    from predictingthepast.models.model import Model",
  "    from predictingthepast.util import alphabet as util_alphabet",
  "",
  "    with open(os.environ[\"AENEAS_CHECKPOINT\"], \"rb\") as f:",
  "        checkpoint = pickle.load(f)",
  "    model_config = checkpoint[\"model_config\"]",
  "    params = jax.device_put(checkpoint[\"params\"])",
  "    forward = Model(**model_config).apply",
  "    return model_config, params, forward, util_alphabet.LatinAlphabet()",
  "",
  "",
  "def main():",
  "    try:",
  "        model_config, params, forward, alphabet = load()",
  "    except Exception as e:  # reported through the handshake",
  "        emit(\x7b\"ready\": False, " ++
    "\"error\": f\"\x7btype(e).__name__\x7d: \x7be\x7d\"\x7d)",
  "        return 1",
  "    emit(\x7b\"ready\": True, \"model_config\": model_config\x7d)",
  "",
  "    from predictingthepast.eval import inference",
  "",
  "    for line in sys.stdin:",
  "        line = line.strip()",
  "        if not line:",
  "            continue",
  "        request = \x7b\x7d",
  "        try:",
  "            request = json.loads(line)",
  "            restoration = inference.restore(",
  "                request[\"text\"],",
  "                forward=forward,",
  "                params=params,",
  "                alphabet=alphabet,",
  "                vocab_char_size=model_config[\"vocab_char_size\"],",
  "                beam_width=request[\"beam_width\"],",
  "                temperature=request[\"temperature\"],",
  "                unk_restoration_max_len=" ++
    "request[\"unk_restoration_max_len\"],",
  "            )",
  "            emit(\x7b\"id\": request[\"id\"], " ++
    "\"result\": restoration.json()\x7d)",
  "        except Exception as e:",
  "            request_id = request.get(\"id\") " ++
    "if isinstance(request, dict) else None",
  "            emit(\x7b\"id\": request_id, " ++
    "\"error\": f\"\x7btype(e).__name__\x7d: \x7be\x7d\"\x7d)",
  "    return 0",
  "",
  "",
  "if __name__ == \"__main__\":",
  "    sys.exit(main())"
]

/-- The text of the worker program; every line is ended. -/
def script : Bytes := Utf8.encode (String.join (scriptLines.map (· ++ "\n")))

end Restoration.Worker
