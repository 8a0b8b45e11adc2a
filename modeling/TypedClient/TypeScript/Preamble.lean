/-!
# The fixed part of a client module

What stands at the beginning of every module, and the functions that the call functions use.  None of
it depends on the API.
-/

namespace TypedClient.TypeScript

/-- The first lines of a module. -/
def header : List String := [
  "// This file is generated. Do not edit it by hand.",
  "import \x7b z \x7d from \"zod\";"]

/-- The errors and functions that the call functions use, line by line. -/
def helpers : List String := [
  "export class ApiRequestError extends Error \x7b",
  "  readonly status: number;",
  "  readonly statusText: string;",
  "  readonly body: unknown;",
  "",
  "  constructor(status: number, statusText: string, body: unknown) \x7b",
  "    super(`Request failed with status $\x7bstatus\x7d $\x7bstatusText\x7d`);",
  "    this.name = \"ApiRequestError\";",
  "    this.status = status;",
  "    this.statusText = statusText;",
  "    this.body = body;",
  "  \x7d",
  "\x7d",
  "",
  "export class ApiConfigError extends Error \x7b",
  "  constructor(message: string) \x7b",
  "    super(message);",
  "    this.name = \"ApiConfigError\";",
  "  \x7d",
  "\x7d",
  "",
  "function requireApiUrl(config: ClientConfig): string \x7b",
  "  const apiUrl = (config.apiUrl ?? \"\").trim();",
  "  if (!/^https?:\\/\\//i.test(apiUrl)) \x7b",
  "    throw new ApiConfigError(\"apiUrl must be an absolute http(s) URL\");",
  "  \x7d",
  "  return apiUrl.replace(/\\/+$/, \"\");",
  "\x7d",
  "",
  "async function readJson(response: Response): Promise<unknown> \x7b",
  "  const text = await response.text();",
  "  if (!text.trim()) \x7b",
  "    return null;",
  "  \x7d",
  "  try \x7b",
  "    return JSON.parse(text);",
  "  \x7d catch (error) \x7b",
  "    if (response.status < 200 || response.status >= 400) \x7b",
  "      return text;",
  "    \x7d",
  "    throw error;",
  "  \x7d",
  "\x7d",
  "",
  "function toQueryString(params: Record<string, unknown>): string \x7b",
  "  const search = new URLSearchParams();",
  "  const append = (key: string, value: unknown) => \x7b",
  "    if (value === undefined || value === null) \x7b",
  "      return;",
  "    \x7d",
  "    search.append(key, typeof value === \"object\" ? JSON.stringify(value) : String(value));",
  "  \x7d;",
  "  for (const [key, value] of Object.entries(params)) \x7b",
  "    if (Array.isArray(value)) \x7b",
  "      value.forEach((item) => append(key, item));",
  "    \x7d else \x7b",
  "      append(key, value);",
  "    \x7d",
  "  \x7d",
  "  return search.toString();",
  "\x7d"]

end TypedClient.TypeScript
